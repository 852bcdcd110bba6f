import TreeAudit.Proofs.Decimal.Numerals
import TreeAudit.Proofs.Query.Offsets
import TreeAudit.Query.Basic

-- Finding symbols in a text. A text is scanned from the front: what its first symbol is depends on the
-- characters up to the first one that does not go on with it.
namespace TreeAudit
open Decimal (Exact)

namespace Unicode
variable {c : Char} {left right : List (Nat × Nat)}

theorem inRanges_apart (apart : ∀ p ∈ left, ∀ q ∈ right, p.2 < q.1 ∨ q.2 < p.1)
    (inside : inRanges left c = true) : inRanges right c = false := by
  obtain ⟨p,among,within⟩ := List.any_eq_true.mp inside
  refine List.any_eq_false.mpr fun q other => ?_
  have := apart p among q other
  simp only [Bool.and_eq_true,decide_eq_true_eq] at within ⊢
  omega

theorem inRanges_of_isAlpha (letter : c.isAlpha = true) : inRanges [(0x41,0x5A),(0x61,0x7A)] c = true := by
  simpa [inRanges,Char.isAlpha,Char.isUpper,Char.isLower,UInt32.le_iff_toNat_le] using letter

theorem letter_not_blank (letter : isAlphabetic c = true) : isBlank c = false := by
  rw [isAlphabetic] at letter
  split at letter
  · exact inRanges_apart (by decide) (inRanges_of_isAlpha letter)
  · exact inRanges_apart (by decide +kernel) letter

theorem inRanges_of_isDigit (digit : c.isDigit = true) : inRanges [(0x30,0x39)] c = true := by
  simpa [inRanges,Char.isDigit,UInt32.le_iff_toNat_le] using digit

theorem digit_not_blank (digit : c.isDigit = true) : isBlank c = false :=
  inRanges_apart (by decide) (inRanges_of_isDigit digit)

theorem digit_not_letter (digit : c.isDigit = true) : isAlphabetic c = false := by
  have range : 0x30 ≤ c.toNat ∧ c.toNat ≤ 0x39 := by
    simpa [inRanges] using inRanges_of_isDigit digit
  rw [isAlphabetic,if_pos (by omega)]
  refine Bool.eq_false_iff.mpr fun letter => ?_
  cases (inRanges_apart (by decide) (inRanges_of_isAlpha letter)).symm.trans (inRanges_of_isDigit digit)

end Unicode

namespace Query
variable {c : Char} {cs rest text : List Char} {symbol : Symbol} {symbols : List Symbol} {k : Nat} {word : String}

-- The symbols of a text. Where it stands does not matter to them.
def Scans (cs : List Char) (symbols : List Symbol) : Prop :=
  ∀ offset, ∃ ts, tokensFrom offset cs = .ok ts ∧ ts.map Token.symbol = symbols

theorem scans_nil : Scans [] [.finish] := fun offset =>
  ⟨[⟨.finish,offset⟩],by rw [tokensFrom],rfl⟩

theorem Scans.step (later : Scans rest symbols) (inked : Unicode.isBlank c = false)
    (scanned : scan c cs = .ok (symbol,rest)) : Scans (c :: cs) (symbol :: symbols) := by
  intro offset
  obtain ⟨ts,found,same⟩ := later (offset + (Text.byteLength (c :: cs) - Text.byteLength rest))
  refine ⟨⟨symbol,offset⟩ :: ts,?_,by rw [List.map_cons,same]⟩
  rw [tokensFrom_scan inked scanned,found]
  rfl

theorem no_pair (single : ∀ d, pairSymbol? c d = none) : cs.head?.bind (pairSymbol? c) = none := by
  cases cs with
  | nil => rfl
  | cons d cs => exact single d

theorem sign_not_blank (sign : signSymbol? c = some symbol) : Unicode.isBlank c = false := by
  unfold signSymbol? at sign
  split at sign <;> first | decide | cases sign

-- A sign that starts no longer one.
theorem Scans.sign (later : Scans cs symbols) (sign : signSymbol? c = some symbol)
    (single : ∀ d, pairSymbol? c d = none) : Scans (c :: cs) (symbol :: symbols) := by
  refine later.step (sign_not_blank sign) ?_
  have undotted : c ≠ '.' := by
    rintro rfl
    cases single '.'
  simp [scan,no_pair single,undotted,sign]

theorem Scans.doubleSlash (later : Scans cs symbols) : Scans ('/' :: '/' :: cs) (.doubleSlash :: symbols) :=
  later.step (by decide) rfl

-- A character that starts a name or a number.
def startsWord (c : Char) : Bool := isNameStart c || c.isDigit

theorem word_not_blank (starts : startsWord c = true) : Unicode.isBlank c = false := by
  rw [startsWord,isNameStart,Bool.or_eq_true,Bool.or_eq_true,decide_eq_true_eq] at starts
  rcases starts with (letter | rfl) | digit
  · exact Unicode.letter_not_blank letter
  · decide
  · exact Unicode.digit_not_blank digit

theorem scan_word (starts : startsWord c = true) : scan c cs = scanWord c cs := by
  have single : ∀ d, pairSymbol? c d = none := by
    intro d
    unfold pairSymbol?
    split <;> first | rfl | exact absurd starts (by decide)
  have unsigned : signSymbol? c = none := by
    unfold signSymbol?
    split <;> first | rfl | exact absurd starts (by decide)
  have undotted : c ≠ '.' := by
    rintro rfl
    exact absurd starts (by decide)
  simp [scan,no_pair single,undotted,unsigned]

theorem word_not_quote (starts : startsWord c = true) : ¬ (c = '\'' ∨ c = '"') := by
  rintro (rfl | rfl) <;> exact absurd starts (by decide)

-- A name as it can be written: all of it belongs to the name that starts with its first character.
def IsName (word : String) : Prop :=
  ∃ c cs, word.toList = c :: cs ∧ isNameStart c = true ∧ nameTail false cs = (cs,[])

-- What follows a name stops it.
theorem nameTail_append {seen : Bool} (whole : nameTail seen text = (text,[]))
    (stops : ∀ d ∈ cs.head?, isNamePart d = false ∧ d ≠ ':') : nameTail seen (text ++ cs) = (text,cs) := by
  induction text generalizing seen with
  | nil =>
    cases cs with
    | nil => rfl
    | cons d cs =>
      obtain ⟨apart,other⟩ := stops d rfl
      simp [nameTail,apart,other]
  | cons c text ih =>
    rw [nameTail] at whole
    rw [List.cons_append,nameTail]
    split at whole
    · rename_i part
      obtain ⟨same,ends⟩ := Prod.mk.inj whole
      rw [if_pos part,ih (Prod.ext (List.cons.inj same).2 ends)]
    · rename_i other
      split at whole
      · rename_i colon
        obtain ⟨same,ends⟩ := Prod.mk.inj whole
        have again : (c = ':' && !seen && (text ++ cs).head?.any isNameStart) = true := by
          cases text with
          | nil => simp at colon
          | cons d text => exact colon
        rw [if_neg other,if_pos again,ih (Prod.ext (List.cons.inj same).2 ends)]
      · cases whole

theorem scan_name (spellable : IsName word) (stops : ∀ d ∈ cs.head?, isNamePart d = false ∧ d ≠ ':') :
    ∃ c tail, word.toList = c :: tail ∧ startsWord c = true ∧ scan c (tail ++ cs) = .ok (.name word,cs) := by
  obtain ⟨c,tail,written,start,whole⟩ := spellable
  have starts : startsWord c = true := by rw [startsWord,start,Bool.true_or]
  have apart : c.isDigit = false := by
    refine Bool.eq_false_iff.mpr fun digit => ?_
    rw [isNameStart,Unicode.digit_not_letter digit] at start
    cases of_decide_eq_true start ▸ digit
  refine ⟨c,tail,written,starts,?_⟩
  rw [scan_word starts,scanWord,if_neg (word_not_quote starts),if_neg (by rw [apart]; decide),if_pos start,
    nameTail_append whole stops]
  change Except.ok (Symbol.name (String.ofList (c :: tail)),cs) = _
  rw [← written,String.ofList_toList]

theorem Scans.name (later : Scans cs symbols) (spellable : IsName word)
    (stops : ∀ d ∈ cs.head?, isNamePart d = false ∧ d ≠ ':') :
    Scans (word.toList ++ cs) (.name word :: symbols) := by
  obtain ⟨c,tail,written,starts,scanned⟩ := scan_name spellable stops
  rw [written]
  exact later.step (word_not_blank starts) scanned

theorem numberTail_digits {seen : Bool} (digits : ∀ c ∈ text, c.isDigit = true) (cs : List Char) :
    numberTail seen (text ++ cs) = (text ++ (numberTail seen cs).1,(numberTail seen cs).2) := by
  induction text with
  | nil => rfl
  | cons c text ih =>
    obtain ⟨first,later⟩ := List.forall_mem_cons.mp digits
    rw [List.cons_append,numberTail,if_pos first,ih later]
    rfl

-- What follows a number stops it.
theorem numberTail_stops {seen : Bool} (stops : ∀ d ∈ cs.head?, d.isDigit = false ∧ d ≠ '.') :
    numberTail seen cs = ([],cs) := by
  cases cs with
  | nil => rfl
  | cons d cs =>
    obtain ⟨apart,other⟩ := stops d rfl
    simp [numberTail,apart,other]

theorem scan_digit {x : Float} (digit : c.isDigit = true) (tail : numberTail false (c :: cs) = (text,rest))
    (number : Decimal.read? (String.ofList text) = some x) : scan c cs = .ok (.number x,rest) := by
  have starts : startsWord c = true := by rw [startsWord,digit,Bool.or_true]
  rw [scan_word starts,scanWord,if_neg (word_not_quote starts),if_pos digit,scanNumber]
  simp only [tail,number]

theorem Scans.count (later : Scans cs symbols) (exact : Exact k) (nonzero : k ≠ 0)
    (stops : ∀ d ∈ cs.head?, d.isDigit = false ∧ d ≠ '.') :
    Scans ((toString k).toList ++ cs) (.number (Float.ofNat k) :: symbols) := by
  have written : (toString k).toList = Nat.toDigits 10 k := by
    rw [Nat.toString_eq_ofList_toDigits,String.toList_ofList]
  have digits := Decimal.numeral_digits k
  have ends : numberTail false (Nat.toDigits 10 k ++ cs) = (Nat.toDigits 10 k,cs) := by
    rw [numberTail_digits digits,numberTail_stops stops,List.append_nil]
  have number := Decimal.read_numeral exact nonzero
  obtain ⟨c,tail,start,_⟩ := Decimal.numeral_leads nonzero
  rw [Nat.toString_eq_ofList_toDigits] at number
  rw [written]
  rw [start] at digits ends number ⊢
  have digit := digits c List.mem_cons_self
  exact later.step (word_not_blank (by rw [startsWord,digit,Bool.or_true])) (scan_digit digit ends number)

end Query
end TreeAudit
