import TreeAudit.Proofs.Decimal.Counts
import TreeAudit.Proofs.Decimal.Order

-- Sums and differences of double precision numbers that are whole. They are exact as long as all of them
-- have at most 53 digits, and what is less than a count by one or more stays so when it is rounded.
namespace TreeAudit.Decimal
open Float.Model Float.Model.UnpackedFloat

-- What is left of a number once it is written in the bits of a double.
def stored (u : UnpackedFloat) : UnpackedFloat := UnpackedFloat.unpack .binary64 (UnpackedFloat.pack .binary64 u)

def signOf (v : ℤ) : Sign := if v < 0 then .negative else .positive

-- A whole number as a mantissa of 53 digits.
def whole (v : ℤ) : UnpackedFloat :=
  if some : v = 0 then .zero .positive
  else .finite (signOf v) (v.natAbs * 2 ^ (52 - v.natAbs.log2)) (v.natAbs.log2 - 52 : ℤ)
    (Nat.mul_pos (Int.natAbs_pos.mpr some) (Nat.two_pow_pos _))

section Whole
variable {v a b w : ℤ} {j m n : Nat}

theorem whole_some (some : v ≠ 0) : whole v = .finite (signOf v) (v.natAbs * 2 ^ (52 - v.natAbs.log2))
    (v.natAbs.log2 - 52 : ℤ) (Nat.mul_pos (Int.natAbs_pos.mpr some) (Nat.two_pow_pos _)) := dif_neg some

theorem signOf_apply (v : ℤ) (c : Nat) : (signOf v).apply (v.natAbs * c : ℕ) = v * c := by
  unfold signOf
  split
  · rename_i negative
    simp [Sign.apply,abs_of_neg negative]
  · rename_i positive
    simp [Sign.apply,abs_of_nonneg (not_lt.mp positive)]

theorem signOf_count (n : Nat) : signOf n = .positive := by simp [signOf]

theorem stored_whole (small : v.natAbs < 2 ^ 53) : stored (whole v) = whole v := by
  by_cases none : v = 0
  · rw [none]
    rfl
  · have some := Int.natAbs_ne_zero.mpr none
    obtain ⟨low,high⟩ := full_of_small some small
    have width := log2_small small
    rw [whole_some none,stored,unpack_full low high (by omega),if_pos (by omega)]

theorem ofNat_whole (some : n ≠ 0) (small : n < 2 ^ 53) : (Float.ofNat n).toModel.unpack = whole n := by
  rw [ofNat_small some small,whole_some (by omega)]
  rfl

theorem ofNat_model (some : n ≠ 0) (small : n < 2 ^ 53) : (Float.ofNat n).toModel = .pack (whole n) := by
  rw [ofNat_packed some small,whole_some (by omega)]
  rfl

theorem normalize_whole (small : w.natAbs < 2 ^ 53) (j : Nat) :
    UnpackedFloat.normalize .binary64 (w * 2 ^ j) (-j) .positive = whole w := by
  have scale : (0 : ℤ) < 2 ^ j := by positivity
  rcases lt_trichotomy w 0 with negative | rfl | positive
  · have below : compare (w * 2 ^ j) 0 = .lt := Int.compare_eq_lt.mpr (Int.mul_neg_of_neg_of_pos negative scale)
    have size : (-(w * 2 ^ j)).toNat = w.natAbs * 2 ^ j := by
      zify
      rw [Int.toNat_of_nonneg (by nlinarith),abs_of_neg negative,Int.neg_mul]
    rw [UnpackedFloat.normalize,below]
    dsimp only
    rw [size,round_count (Int.natAbs_ne_zero.mpr negative.ne) small,whole_some negative.ne,signOf,if_pos negative]
  · simp [UnpackedFloat.normalize,whole]
  · have above : compare (w * 2 ^ j) 0 = .gt := Int.compare_eq_gt.mpr (Int.mul_pos positive scale)
    have size : (w * 2 ^ j).toNat = w.natAbs * 2 ^ j := by
      zify
      rw [Int.toNat_of_nonneg (by positivity),abs_of_pos positive]
    rw [UnpackedFloat.normalize,above]
    dsimp only
    rw [size,round_count (Int.natAbs_ne_zero.mpr positive.ne') small,whole_some positive.ne',signOf,
      if_neg (not_lt.mpr positive.le)]

-- The mantissa brought to a smaller exponent, with its sign.
theorem aligned (small : v.natAbs < 2 ^ 53) (lower : -(j : ℤ) ≤ v.natAbs.log2 - 52) :
    (signOf v).apply ((v.natAbs * 2 ^ (52 - v.natAbs.log2)) <<< ((v.natAbs.log2 - 52 : ℤ) - -j).toNat : ℕ) =
      v * 2 ^ j := by
  have width := log2_small small
  have places : 52 - v.natAbs.log2 + ((v.natAbs.log2 - 52 : ℤ) - -j).toNat = j := by omega
  rw [Nat.shiftLeft_eq,Nat.mul_assoc,← Nat.pow_add,places,signOf_apply]
  push_cast
  rfl

theorem exponents_min (small : m ≤ 52) (n : Nat) : ∃ j : Nat, min (m - 52 : ℤ) (n - 52) = -j :=
  ⟨(-min (m - 52 : ℤ) (n - 52)).toNat,by omega⟩

theorem sub_whole (smallA : a.natAbs < 2 ^ 53) (smallB : b.natAbs < 2 ^ 53) (someA : a ≠ 0) (someB : b ≠ 0)
    (small : (a - b).natAbs < 2 ^ 53) : UnpackedFloat.sub .binary64 (whole a) (whole b) = whole (a - b) := by
  obtain ⟨j,least⟩ := exponents_min (log2_small smallA) b.natAbs.log2
  rw [whole_some someA,whole_some someB,UnpackedFloat.sub]
  simp only [decreaseExponent,least]
  rw [aligned smallA (by omega),aligned smallB (by omega),← Int.sub_mul,normalize_whole small]

theorem add_whole (smallA : a.natAbs < 2 ^ 53) (smallB : b.natAbs < 2 ^ 53) (someB : b ≠ 0)
    (small : (a + b).natAbs < 2 ^ 53) : UnpackedFloat.add .binary64 (whole a) (whole b) = whole (a + b) := by
  by_cases someA : a = 0
  · rw [someA,Int.zero_add,whole_some someB]
    rfl
  · obtain ⟨j,least⟩ := exponents_min (log2_small smallA) b.natAbs.log2
    rw [whole_some someA,whole_some someB,UnpackedFloat.add]
    simp only [decreaseExponent,least]
    rw [aligned smallA (by omega),aligned smallB (by omega),← Int.add_mul,normalize_whole small]

-- Counts are added without rounding, and nothing is added to a zero of either sign.
theorem ofNat_add {m : Nat} (someM : m ≠ 0) (someN : n ≠ 0) (small : m + n < 2 ^ 53) :
    Float.ofNat m + Float.ofNat n = Float.ofNat (m + n) := by
  have sum : (Float.ofNat m + Float.ofNat n).toModel =
      .pack (UnpackedFloat.add .binary64 (Float.ofNat m).toModel.unpack (Float.ofNat n).toModel.unpack) := rfl
  have same : (Float.ofNat m + Float.ofNat n).toModel = (Float.ofNat (m + n)).toModel := by
    rw [sum,ofNat_whole someM (by omega),ofNat_whole someN (by omega),
      add_whole (by omega) (by omega) (by omega) (by omega),ofNat_model (by omega) small,Nat.cast_add]
  exact congrArg Float.ofModel same

theorem negativeZero_add (some : n ≠ 0) (small : n < 2 ^ 53) : -0.0 + Float.ofNat n = Float.ofNat n := by
  have sum : (-0.0 + Float.ofNat n).toModel =
      .pack (UnpackedFloat.add .binary64 (.zero .negative) (Float.ofNat n).toModel.unpack) := rfl
  have same : (-0.0 + Float.ofNat n).toModel = (Float.ofNat n).toModel := by
    rw [sum,ofNat_whole some small,ofNat_model some small,whole_some (by omega)]
    rfl
  exact congrArg Float.ofModel same

-- The sum of counts, of which none is zero.
theorem sum_counts {m : Nat} (ns : List Nat) (someM : m ≠ 0) (some : ∀ n ∈ ns, n ≠ 0) (small : m + ns.sum < 2 ^ 53) :
    (ns.map Float.ofNat).foldl (· + ·) (Float.ofNat m) = Float.ofNat (m + ns.sum) := by
  induction ns generalizing m with
  | nil => rfl
  | cons n ns ih =>
    rw [List.sum_cons,← Nat.add_assoc] at small ⊢
    have someN := some n List.mem_cons_self
    rw [List.map_cons,List.foldl_cons,ofNat_add someM someN (by omega)]
    exact ih (by omega) (fun k member => some k (List.mem_cons_of_mem _ member)) small

theorem compare_whole (small : m < 2 ^ 53) (some : m ≠ 0) (a : ℤ) :
    (whole a).compare (whole m) = .some .eq ↔ a = m := by
  rw [whole_some (v := m) (by omega),signOf_count]
  by_cases none : a = 0
  · rw [none]
    simp [whole,UnpackedFloat.compare]
    omega
  · rw [whole_some none,signOf]
    split
    · simp [UnpackedFloat.compare]
      omega
    · rename_i above
      have same : a.natAbs = m ↔ a = m := by omega
      simp [UnpackedFloat.compare,Ordering.then_eq_eq,← same]
      constructor
      · intro both
        obtain ⟨exponent,mantissa⟩ := both
        rw [exponent] at mantissa
        exact Nat.eq_of_mul_eq_mul_right (Nat.two_pow_pos _) mantissa
      · intro equal
        rw [equal]
        exact ⟨rfl,rfl⟩

end Whole

section Beyond
variable {m n k p : Nat} {e low : ℤ} {sign : Sign} {u : UnpackedFloat}

-- A number of 53 digits of no less than an exponent, or one that is too large.
def AtLeast (sign : Sign) (low : ℤ) (u : UnpackedFloat) : Prop :=
  u = .infinity sign ∨ ∃ m e some, u = .finite sign m e some ∧ 2 ^ 52 ≤ m ∧ low ≤ e

theorem stored_long (long : 52 ≤ m.log2) (range : -1074 ≤ m.log2 + e - 52) :
    AtLeast sign (m.log2 + e - 52) (stored (roundWithAccuracy .binary64 sign m e .exact)) := by
  obtain ⟨kept,exponent,some,rounded,low,high,least⟩ := @round_long m e sign long range
  rw [rounded,stored,unpack_full low high (by omega)]
  split
  · exact .inr ⟨kept,exponent,some,rfl,low,least⟩
  · exact .inl rfl

theorem stored_round (some : m ≠ 0) (range : -1074 ≤ m.log2 + e - 52) :
    AtLeast sign (m.log2 + e - 52) (stored (UnpackedFloat.round .binary64 sign m e)) := by
  have digits := log2_mul_pow some (52 - m.log2)
  have places : (e - (m.log2 + e - 52)).toNat = 52 - m.log2 := by omega
  have exponent : (m.log2 + e - 52 : ℤ) = (m.log2 + (52 - m.log2) : Nat) + (e - (52 - m.log2 : Nat)) - 52 := by omega
  rw [UnpackedFloat.round,targetExponent_eq range,decreaseExponent,places,Nat.shiftLeft_eq,exponent,← digits]
  apply stored_long
  · omega
  · omega

theorem AtLeast.mono {least : ℤ} (some : AtLeast sign low u) (lower : least ≤ low) : AtLeast sign least u := by
  rcases some with top | ⟨m,e,some,value,full,above⟩
  · exact .inl top
  · exact .inr ⟨m,e,some,value,full,lower.trans above⟩

theorem ofNat_beyond (large : 2 ^ 53 ≤ n) : AtLeast .positive 1 (Float.ofNat n).toModel.unpack := by
  have long : 53 ≤ n.log2 := (Nat.le_log2 (by omega)).mpr large
  have digits := log2_mul_pow (m := n) (by omega) 53
  rw [ofNat_large large]
  exact (stored_long (by omega) (by omega)).mono (by omega)

theorem normalize_negative (some : m ≠ 0) (range : -1074 ≤ m.log2 + e - 52) :
    AtLeast .negative (m.log2 + e - 52) (stored (UnpackedFloat.normalize .binary64 (-(m : ℤ)) e .positive)) := by
  have below : compare (-(m : ℤ)) 0 = .lt := Int.compare_eq_lt.mpr (by omega)
  have size : (- -(m : ℤ)).toNat = m := by omega
  rw [UnpackedFloat.normalize,below]
  dsimp only
  rw [size]
  exact stored_round some range

-- What is beyond 53 digits and is taken from a count leaves minus one or less.
theorem sub_beyond (small : n < 2 ^ 53) (some : n ≠ 0) (beyond : AtLeast .positive 1 u) :
    AtLeast .negative (-52) (stored (UnpackedFloat.sub .binary64 (whole n) u)) := by
  have width := log2_small small
  rcases beyond with top | ⟨m,e,more,value,full,least⟩
  · have bottom : UnpackedFloat.sub .binary64 (whole n) u = .infinity .negative := by
      rw [top,whole_some (by omega)]
      rfl
    rw [bottom]
    exact .inl rfl
  · obtain ⟨j,exponent⟩ : ∃ j : Nat, ((n : ℤ).natAbs.log2 - 52 : ℤ) = -j := ⟨52 - n.log2,by simp; omega⟩
    have least : min ((n : ℤ).natAbs.log2 - 52 : ℤ) e = -j := by omega
    rw [value,whole_some (by omega),UnpackedFloat.sub]
    simp only [decreaseExponent,least]
    -- At the exponent of the count, the other exceeds it by one or more.
    have more : n + 1 ≤ m * 2 ^ e.toNat := by
      have twice : 2 ^ 1 ≤ 2 ^ e.toNat := Nat.pow_le_pow_right (by decide) (by omega)
      have product := Nat.mul_le_mul full twice
      omega
    have lifted : m * 2 ^ (e - -j).toNat = m * 2 ^ e.toNat * 2 ^ j := by
      rw [Nat.mul_assoc,← Nat.pow_add]
      congr 2
      omega
    have taken : (n : ℤ) * 2 ^ j - Sign.positive.apply (m * 2 ^ e.toNat * 2 ^ j : ℕ) =
        -(((m * 2 ^ e.toNat - n) * 2 ^ j : ℕ) : ℤ) := by
      simp only [Sign.apply]
      push_cast [Nat.cast_sub (Nat.le_of_succ_le more)]
      ring
    have digits := @log2_mul_pow (m * 2 ^ e.toNat - n) (by omega) j
    have present : (m * 2 ^ e.toNat - n) * 2 ^ j ≠ 0 := Nat.mul_ne_zero (by omega) (Nat.two_pow_pos j).ne'
    rw [aligned (v := n) small (by omega),Nat.shiftLeft_eq,lifted,taken]
    exact (normalize_negative present (by omega)).mono (by omega)

theorem AtLeast.not_count (below : AtLeast .negative low u) (some : p ≠ 0) : u.compare (whole p) ≠ .some .eq := by
  rw [whole_some (v := p) (by omega),signOf_count]
  rcases below with bottom | ⟨m,e,more,value,_,_⟩
  · simp [bottom,UnpackedFloat.compare]
  · simp [value,UnpackedFloat.compare]

-- One added to minus one or less makes nothing that is counted.
theorem add_one_low (below : AtLeast .negative (-52) u) (some : p ≠ 0) :
    (stored (UnpackedFloat.add .binary64 u (whole 1))).compare (whole p) ≠ .some .eq := by
  rcases below with bottom | ⟨m,e,more,value,full,least⟩
  · have stays : UnpackedFloat.add .binary64 u (whole 1) = .infinity .negative := by
      rw [bottom]
      rfl
    have largest : AtLeast .negative 0 (stored (.infinity .negative)) := .inl rfl
    rw [stays]
    exact largest.not_count some
  · have joined : UnpackedFloat.add .binary64 u (whole 1) =
        UnpackedFloat.normalize .binary64 (-((m * 2 ^ (e + 52).toNat - 2 ^ 52 : ℕ) : ℤ)) (-52) .positive := by
      have one : whole 1 = .finite .positive (2 ^ 52) (-52) (Nat.two_pow_pos 52) := rfl
      have lower : min e (-52) = -52 := by omega
      have larger : 2 ^ 52 ≤ m * 2 ^ (e + 52).toNat := full.trans (Nat.le_mul_of_pos_right m (Nat.two_pow_pos _))
      have sum : -((m * 2 ^ (e + 52).toNat : ℕ) : ℤ) + (2 ^ 52 : ℕ) = -((m * 2 ^ (e + 52).toNat - 2 ^ 52 : ℕ) : ℤ) := by
        omega
      rw [value,one,UnpackedFloat.add]
      simp only [decreaseExponent,lower,Nat.shiftLeft_eq,Sign.apply]
      rw [← sum]
      rfl
    rw [joined]
    by_cases none : m * 2 ^ (e + 52).toNat - 2 ^ 52 = 0
    · have zero : stored (.zero .positive) = .zero .positive := rfl
      rw [none,whole_some (v := p) (by omega),signOf_count]
      simp [UnpackedFloat.normalize,zero,UnpackedFloat.compare]
    · exact (normalize_negative none (by omega)).not_count some

end Beyond

-- A count of at most 53 digits is told from every other, exact or not.
theorem counted_beq_iff {k p : Nat} (positive : 1 ≤ k) (first : 1 ≤ p) (small : p < 2 ^ 53) :
    (Float.ofNat k == Float.ofNat p) = true ↔ p = k := by
  by_cases short : k < 2 ^ 53
  · rw [count_beq_iff (exact_of_le short.le) (by omega) (by omega) (.inl short)]
    exact eq_comm
  · have apart : p ≠ k := by omega
    rw [Query.beq_swap,beyond_ne (by omega) small (not_lt.mp short)]
    simp [apart]

-- A count and what is counted from the end.
theorem mirrored_beq_iff {n k p : Nat} (small : n < 2 ^ 53) (positive : 1 ≤ k) (first : 1 ≤ p) (last : p ≤ n) :
    (Float.ofNat n - Float.ofNat k + Float.ofNat 1 == Float.ofNat p) = true ↔ p + k = n + 1 := by
  have compared : (Float.ofNat n - Float.ofNat k + Float.ofNat 1 == Float.ofNat p) = true ↔
      (stored (UnpackedFloat.add .binary64
        (stored (UnpackedFloat.sub .binary64 (Float.ofNat n).toModel.unpack (Float.ofNat k).toModel.unpack))
        (Float.ofNat 1).toModel.unpack)).compare (Float.ofNat p).toModel.unpack = some .eq := by
    rw [← @beq_iff_eq (Option Ordering)]
    rfl
  rw [compared,@ofNat_whole n (by omega) small,@ofNat_whole 1 (by decide) (by decide),@ofNat_whole p (by omega) (by omega)]
  by_cases short : k < 2 ^ 53
  · rw [@ofNat_whole k (by omega) short,sub_whole (by omega) (by omega) (by omega) (by omega) (by omega),
      stored_whole (by omega),Nat.cast_one,add_whole (by omega) (by decide) (by decide) (by omega),
      stored_whole (by omega),compare_whole (by omega) (by omega)]
    omega
  · have apart : p + k ≠ n + 1 := by omega
    have low := sub_beyond small (by omega) (ofNat_beyond (not_lt.mp short))
    exact iff_of_false (add_one_low low (by omega)) apart

end TreeAudit.Decimal
