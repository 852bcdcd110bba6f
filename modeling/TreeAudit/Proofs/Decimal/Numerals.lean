import TreeAudit.Proofs.Decimal.Counts

-- Counts written down. An exact count is read from its digits as itself: they hold no sign, point or
-- exponent, do not start with a zero and are too few to be taken for infinity.
namespace TreeAudit.Decimal
variable {k : Nat} {c : Char} {cs : List Char}

theorem numeral_digits (k : Nat) : ∀ c ∈ Nat.toDigits 10 k, c.isDigit = true := fun _ member =>
  Nat.isDigit_of_mem_toDigits (by decide) (by decide) member

theorem digit_leads : ∀ n < 10, n ≠ 0 → n.digitChar ≠ '0' := by
  decide

theorem numeral_leads (nonzero : k ≠ 0) : ∃ c cs, Nat.toDigits 10 k = c :: cs ∧ c ≠ '0' := by
  induction k using Nat.strongRecOn with
  | ind k ih =>
    by_cases small : k < 10
    · exact ⟨k.digitChar,[],Nat.toDigits_of_lt_base small,digit_leads k small nonzero⟩
    · rw [Nat.toDigits_of_base_le (by decide) (Nat.le_of_not_lt small)]
      obtain ⟨c,cs,start,leads⟩ := ih (k / 10) (by omega) (by omega)
      exact ⟨c,cs ++ [(k % 10).digitChar],by rw [start,List.cons_append],leads⟩

theorem numeral_value (k : Nat) : digitsValue (Nat.toDigits 10 k) = k := by
  have same : digitsValue (Nat.toDigits 10 k) = Nat.ofDigitChars 10 (Nat.toDigits 10 k) 0 := by
    rw [digitsValue,Nat.ofDigitChars]
    refine congrArg (fun f => List.foldl f 0 _) (funext fun n => funext fun c => ?_)
    rw [Nat.mul_comm]
  rw [same,Nat.ofDigitChars_ten_toDigits]

theorem numeral_length {places blocks : Nat} (bound : k < (10 ^ places) ^ blocks) (some : 0 < places * blocks) :
    (Nat.toDigits 10 k).length ≤ places * blocks := by
  rw [Nat.length_toDigits_le_iff (by decide) some,Nat.pow_mul]
  exact bound

theorem Exact.bounded (exact : Exact k) : k < (10 ^ 25) ^ 16 := by
  obtain ⟨digits,zeros,rfl,short,bound⟩ := exact
  calc
    digits * 2 ^ zeros < 2 ^ 53 * 2 ^ zeros := Nat.mul_lt_mul_of_pos_right short (Nat.two_pow_pos zeros)
    _ = 2 ^ (53 + zeros) := (Nat.pow_add ..).symm
    _ ≤ 2 ^ (64 * 16) := Nat.pow_le_pow_right (by decide) (by omega)
    _ = (2 ^ 64) ^ 16 := Nat.pow_mul 2 64 16
    _ ≤ (10 ^ 25) ^ 16 := Nat.pow_le_pow_left (by decide) 16

theorem Exact.scale (exact : Exact k) (nonzero : k ≠ 0) :
    scale false (Nat.toDigits 10 k).length k 0 = Float.ofNat k := by
  have few := numeral_length exact.bounded (by decide)
  have near : ¬ (0 : Int) + (Nat.toDigits 10 k).length > 400 := by omega
  have far : ¬ (0 : Int) + (Nat.toDigits 10 k).length < -400 := by omega
  simp only [Decimal.scale,if_neg nonzero,if_neg near,if_neg far,if_pos (Int.le_refl 0)]
  rfl

theorem toLower_digit (digit : c.isDigit = true) : c.toLower = c := by
  have low : c.val ≤ 57 := of_decide_eq_true (Bool.and_eq_true_iff.mp digit).2
  rw [Char.toLower,dif_neg]
  rintro ⟨upper,_⟩
  exact absurd (UInt32.le_trans upper low) (by decide)

theorem readUnsigned_numeral (exact : Exact k) (nonzero : k ≠ 0) :
    readUnsigned? false (Nat.toDigits 10 k) = some (Float.ofNat k) := by
  have whole : (Nat.toDigits 10 k).takeWhile Char.isDigit = Nat.toDigits 10 k :=
    List.takeWhile_eq_self_iff.mpr (numeral_digits k)
  have nothing : (Nat.toDigits 10 k).dropWhile Char.isDigit = [] :=
    List.dropWhile_eq_nil_iff.mpr (numeral_digits k)
  obtain ⟨c,cs,start,leads⟩ := numeral_leads nonzero
  have kept : (Nat.toDigits 10 k).dropWhile (· = '0') = Nat.toDigits 10 k := by
    rw [start,List.dropWhile_cons_of_neg (by simpa using leads)]
  have present : (Nat.toDigits 10 k).isEmpty = false := by rw [start]; rfl
  simp only [readUnsigned?,whole,nothing,present,readExponent?,List.append_nil,kept,numeral_value]
  exact congrArg some (exact.scale nonzero)

theorem read_numeral (exact : Exact k) (nonzero : k ≠ 0) : read? (toString k) = some (Float.ofNat k) := by
  obtain ⟨c,cs,start,_⟩ := numeral_leads nonzero
  have digit : c.isDigit = true := numeral_digits k c (start ▸ List.mem_cons_self)
  have text : (toString k).toList = Nat.toDigits 10 k := by
    rw [Nat.toString_eq_ofList_toDigits,String.toList_ofList]
  have other : ∀ word : List Char, word.head?.any Char.isDigit = false → (c :: cs).map Char.toLower ≠ word := by
    rintro word letter rfl
    rw [List.map_cons,toLower_digit digit,List.head?_cons] at letter
    cases digit.symm.trans letter
  have unsigned := readUnsigned_numeral exact nonzero
  rw [start] at unsigned
  rw [read?,text,start]
  split
  rename_i negative body parts
  obtain ⟨rfl,rfl⟩ : false = negative ∧ c :: cs = body := by
    refine Prod.mk.inj (Eq.trans ?_ parts)
    split
    · rename_i same
      cases (List.cons.inj same).1 ▸ digit
    · rename_i same
      cases (List.cons.inj same).1 ▸ digit
    · rfl
  rw [if_neg,if_neg (other _ rfl)]
  · exact unsigned
  · rintro (same | same)
    · exact other _ rfl same
    · exact other _ rfl same

end TreeAudit.Decimal
