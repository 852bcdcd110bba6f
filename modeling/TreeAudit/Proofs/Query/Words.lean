import TreeAudit.Proofs.Query.Scanning

-- How the symbols of queries are written down: by a sign, as a name, as a text in quotes or as a decimal
-- numeral. A word that a blank or nothing follows is read back as its symbol, and whatever is read as a symbol
-- is such a word.
namespace TreeAudit

namespace Unicode
variable {c : Char}

theorem numeric_not_blank (numeric : isNumeric c = true) : isBlank c = false := by
  rw [isNumeric] at numeric
  split at numeric
  · exact digit_not_blank numeric
  · exact inRanges_apart (by decide +kernel) numeric

theorem alphanumeric_not_blank (known : isAlphanumeric c = true) : isBlank c = false :=
  (Bool.or_eq_true_iff.mp known).elim letter_not_blank numeric_not_blank

end Unicode

namespace Query

def Symbol.sign? : Symbol → Option (List Char)
  | .slash => some ['/']
  | .doubleSlash => some ['/','/']
  | .leftBracket => some ['[']
  | .rightBracket => some [']']
  | .leftParen => some ['(']
  | .rightParen => some [')']
  | .at => some ['@']
  | .comma => some [',']
  | .dot => some ['.']
  | .dotDot => some ['.','.']
  | .star => some ['*']
  | .bar => some ['|']
  | .plus => some ['+']
  | .minus => some ['-']
  | .equal => some ['=']
  | .notEqual => some ['!','=']
  | .less => some ['<']
  | .lessEqual => some ['<','=']
  | .greater => some ['>']
  | .greaterEqual => some ['>','=']
  | .doubleColon => some [':',':']
  | .dollar => some ['$']
  | .name _ | .string _ | .number _ | .finish => none

inductive IsSimpleName : List Char → Prop
  | intro {c : Char} {cs : List Char} : isNameStart c = true → (∀ d ∈ cs, isNamePart d = true) → IsSimpleName (c :: cs)

-- A simple name, or two of them with a colon between them.
inductive IsFullName : List Char → Prop
  | simple {cs : List Char} : IsSimpleName cs → IsFullName cs
  | qualified {cs ds : List Char} : IsSimpleName cs → IsSimpleName ds → IsFullName (cs ++ ':' :: ds)

-- Digits, with a point before the last of them or without one.
inductive IsNumeral : List Char → Prop
  | whole {cs : List Char} : cs ≠ [] → (∀ c ∈ cs, c.isDigit = true) → IsNumeral cs
  | pointed {cs ds : List Char} : (∀ c ∈ cs, c.isDigit = true) → ds ≠ [] → (∀ d ∈ ds, d.isDigit = true) →
    IsNumeral (cs ++ '.' :: ds)

def doubled (quote : Char) (body : List Char) : List Char :=
  body.flatMap fun c => if c = quote then [c,c] else [c]

def enquoted (quote : Char) (body : List Char) : List Char := quote :: (doubled quote body ++ [quote])

inductive Writes : Symbol → List Char → Prop
  | sign {symbol : Symbol} {text : List Char} : symbol.sign? = some text → Writes symbol text
  | name {word : String} : IsFullName word.toList → Writes (.name word) word.toList
  | string {quote : Char} {body : String} : quote = '\'' ∨ quote = '"' →
    Writes (.string body) (enquoted quote body.toList)
  | number {x : Float} {text : List Char} : IsNumeral text → Decimal.read? (String.ofList text) = some x →
    Writes (.number x) text

variable {c d quote : Char} {cs ds body rest text : List Char} {symbol : Symbol} {word : String}
  {problem : SyntaxProblem}

section Names

theorem nameStart_part (start : isNameStart c = true) : isNamePart c = true := by
  rw [isNameStart,Bool.or_eq_true] at start
  rw [isNamePart,Unicode.isAlphanumeric]
  rcases start with letter | line
  · simp [letter]
  · simp [line]

theorem part_not_blank (part : isNamePart c = true) : Unicode.isBlank c = false := by
  rw [isNamePart,Bool.or_eq_true,Bool.or_eq_true,decide_eq_true_eq,decide_eq_true_eq] at part
  rcases part with (known | rfl) | rfl
  · exact Unicode.alphanumeric_not_blank known
  · decide
  · decide

theorem nameTail_parts (seen : Bool) (parts : ∀ d ∈ ds, isNamePart d = true) (cs : List Char) :
    nameTail seen (ds ++ cs) = (ds ++ (nameTail seen cs).1,(nameTail seen cs).2) := by
  induction ds with
  | nil => rfl
  | cons d ds ih =>
    obtain ⟨first,later⟩ := List.forall_mem_cons.mp parts
    rw [List.cons_append,nameTail,if_pos first,ih later]
    rfl

theorem nameTail_whole (seen : Bool) (parts : ∀ d ∈ ds, isNamePart d = true) : nameTail seen ds = (ds,[]) := by
  simpa [nameTail] using nameTail_parts seen parts []

theorem IsFullName.isName (named : IsFullName word.toList) : IsName word := by
  generalize written : word.toList = text at named
  cases named with
  | simple before =>
    obtain ⟨start,parts⟩ := before
    exact ⟨_,_,written,start,nameTail_whole false parts⟩
  | qualified before after =>
    obtain ⟨start,parts⟩ := before
    obtain ⟨again,others⟩ := after
    refine ⟨_,_,written.trans List.cons_append,start,?_⟩
    have tail := nameTail_whole true (List.forall_mem_cons.mpr ⟨nameStart_part again,others⟩)
    rw [nameTail_parts false parts,nameTail,if_neg (by decide),if_pos (by simpa using again),tail]

-- By induction along the scanner: behind the first colon there is no second one.
theorem nameTail_canonical (seen : Bool) (cs : List Char) :
    ∃ ds, (∀ d ∈ ds, isNamePart d = true) ∧ ((nameTail seen cs).1 = ds ∨
      seen = false ∧ ∃ after, IsSimpleName after ∧ (nameTail seen cs).1 = ds ++ ':' :: after) := by
  induction cs generalizing seen with
  | nil => exact ⟨[],List.forall_mem_nil _,.inl rfl⟩
  | cons c cs ih =>
    unfold nameTail
    split
    · rename_i part
      obtain ⟨ds,parts,tail⟩ := ih seen
      refine ⟨c :: ds,List.forall_mem_cons.mpr ⟨part,parts⟩,?_⟩
      rcases tail with same | ⟨first,after,simple,same⟩
      · exact .inl (congrArg (c :: ·) same)
      · exact .inr ⟨first,after,simple,congrArg (c :: ·) same⟩
    · split
      · rename_i colon
        simp only [Bool.and_eq_true,decide_eq_true_eq,Bool.not_eq_true'] at colon
        obtain ⟨⟨rfl,first⟩,starts⟩ := colon
        refine ⟨[],List.forall_mem_nil _,.inr ⟨first,(nameTail true cs).1,?_,rfl⟩⟩
        obtain ⟨ds,parts,tail⟩ := ih true
        have same := tail.resolve_right fun second => Bool.true_eq_false_eq_False second.1
        cases cs with
        | nil => cases starts
        | cons d cs =>
          have start : isNameStart d = true := starts
          rw [← same] at parts
          rw [nameTail,if_pos (nameStart_part start)] at parts ⊢
          exact ⟨start,(List.forall_mem_cons.mp parts).2⟩
      · exact ⟨[],List.forall_mem_nil _,.inl rfl⟩

theorem nameTail_full (start : isNameStart c = true) : IsFullName (c :: (nameTail false cs).1) := by
  obtain ⟨ds,parts,same | ⟨_,after,simple,same⟩⟩ := nameTail_canonical false cs
  · rw [same]
    exact .simple ⟨start,parts⟩
  · rw [same]
    exact .qualified ⟨start,parts⟩ simple

end Names

section Numerals

theorem IsNumeral.tail (numeral : IsNumeral text) (stops : ∀ d ∈ rest.head?, d.isDigit = false ∧ d ≠ '.') :
    numberTail false (text ++ rest) = (text,rest) := by
  cases numeral with
  | whole _ digits => rw [numberTail_digits digits,numberTail_stops stops,List.append_nil]
  | @pointed cs ds digits some fraction =>
    have starts : (ds ++ rest).head?.any Char.isDigit = true := by
      cases ds with
      | nil => exact absurd rfl some
      | cons d ds => exact fraction d List.mem_cons_self
    rw [List.append_assoc,numberTail_digits digits,List.cons_append,numberTail,if_neg (by decide),
      if_pos (by simpa using starts),numberTail_digits fraction,numberTail_stops stops,List.append_nil]

theorem numberTail_canonical (seen : Bool) (cs : List Char) :
    ∃ ds, (∀ d ∈ ds, d.isDigit = true) ∧ ((numberTail seen cs).1 = ds ∨
      seen = false ∧ ∃ after, after ≠ [] ∧ (∀ d ∈ after, d.isDigit = true) ∧
        (numberTail seen cs).1 = ds ++ '.' :: after) := by
  induction cs generalizing seen with
  | nil => exact ⟨[],List.forall_mem_nil _,.inl rfl⟩
  | cons c cs ih =>
    unfold numberTail
    split
    · rename_i digit
      obtain ⟨ds,digits,tail⟩ := ih seen
      refine ⟨c :: ds,List.forall_mem_cons.mpr ⟨digit,digits⟩,?_⟩
      rcases tail with same | ⟨first,after,some,fraction,same⟩
      · exact .inl (congrArg (c :: ·) same)
      · exact .inr ⟨first,after,some,fraction,congrArg (c :: ·) same⟩
    · split
      · rename_i point
        simp only [Bool.and_eq_true,decide_eq_true_eq,Bool.not_eq_true'] at point
        obtain ⟨⟨rfl,first⟩,starts⟩ := point
        obtain ⟨ds,digits,tail⟩ := ih true
        have same := tail.resolve_right fun second => Bool.true_eq_false_eq_False second.1
        rw [← same] at digits
        refine ⟨[],List.forall_mem_nil _,.inr ⟨first,(numberTail true cs).1,?_,digits,rfl⟩⟩
        cases cs with
        | nil => cases starts
        | cons d cs =>
          have digit : d.isDigit = true := starts
          rw [numberTail,if_pos digit]
          exact List.cons_ne_nil _ _
      · exact ⟨[],List.forall_mem_nil _,.inl rfl⟩

-- What starts a number: a digit, or a point before one.
def startsNumber (c : Char) (cs : List Char) : Prop := c.isDigit = true ∨ c = '.' ∧ cs.head?.any Char.isDigit = true

theorem numberTail_numeral (starts : startsNumber c cs) : IsNumeral (numberTail false (c :: cs)).1 := by
  have some : (numberTail false (c :: cs)).1 ≠ [] := by
    unfold numberTail
    rcases starts with digit | ⟨rfl,digit⟩
    · simp [digit]
    · simp [digit]
  obtain ⟨ds,digits,same | ⟨_,after,more,fraction,same⟩⟩ := numberTail_canonical false (c :: cs)
  · rw [same] at some ⊢
    exact .whole some digits
  · rw [same]
    exact .pointed digits more fraction

theorem IsNumeral.starts (numeral : IsNumeral text) : ∃ c cs, text = c :: cs ∧ startsNumber c cs := by
  cases numeral with
  | whole some digits =>
    obtain ⟨c,cs,rfl⟩ := List.exists_cons_of_ne_nil some
    exact ⟨c,cs,rfl,.inl (digits c List.mem_cons_self)⟩
  | @pointed cs ds digits some fraction =>
    cases cs with
    | nil =>
      obtain ⟨d,ds,rfl⟩ := List.exists_cons_of_ne_nil some
      exact ⟨'.',_,rfl,.inr ⟨rfl,fraction d List.mem_cons_self⟩⟩
    | cons c cs => exact ⟨c,_,rfl,.inl (digits c List.mem_cons_self)⟩

theorem takeWhile_digits (digits : ∀ d ∈ ds, d.isDigit = true) (cs : List Char)
    (stops : ∀ d ∈ cs.head?, d.isDigit = false) :
    (ds ++ cs).takeWhile Char.isDigit = ds ∧ (ds ++ cs).dropWhile Char.isDigit = cs := by
  rw [List.takeWhile_append_of_pos digits,List.dropWhile_append_of_pos digits]
  cases cs with
  | nil => simp
  | cons d cs => simp [stops d rfl]

theorem IsNumeral.unsigned (numeral : IsNumeral text) : ∃ x, Decimal.readUnsigned? false text = some x := by
  cases numeral with
  | whole some digits =>
    obtain ⟨taken,dropped⟩ := takeWhile_digits digits [] (by simp)
    rw [List.append_nil] at taken dropped
    simp only [Decimal.readUnsigned?,taken,dropped,List.isEmpty_eq_false_iff.mpr some]
    exact ⟨_,rfl⟩
  | @pointed cs ds digits some fraction =>
    obtain ⟨taken,dropped⟩ := takeWhile_digits digits ('.' :: ds) (by simp)
    obtain ⟨after,nothing⟩ := takeWhile_digits fraction [] (by simp)
    rw [List.append_nil] at after nothing
    simp only [Decimal.readUnsigned?,taken,dropped,after,nothing,List.isEmpty_eq_false_iff.mpr some,Bool.and_false]
    exact ⟨_,rfl⟩

-- A numeral is always read as a number.
theorem IsNumeral.reads (numeral : IsNumeral text) : ∃ x, Decimal.read? (String.ofList text) = some x := by
  obtain ⟨c,cs,rfl,starts⟩ := numeral.starts
  have unsigned : c ≠ '-' ∧ c ≠ '+' := by
    constructor
    · rintro rfl
      simp [startsNumber] at starts
    · rintro rfl
      simp [startsNumber] at starts
  obtain ⟨x,number⟩ := numeral.unsigned
  rw [Decimal.read?,String.toList_ofList]
  split
  rename_i negative body parts
  obtain ⟨rfl,rfl⟩ : false = negative ∧ c :: cs = body := by
    refine Prod.mk.inj (Eq.trans ?_ parts)
    split
    · rename_i same
      exact absurd (List.cons.inj same).1 unsigned.1
    · rename_i same
      exact absurd (List.cons.inj same).1 unsigned.2
    · rfl
  dsimp only
  by_cases endless : (c :: cs).map Char.toLower = "inf".toList ∨ (c :: cs).map Char.toLower = "infinity".toList
  · exact ⟨_,if_pos endless⟩
  · rw [if_neg endless]
    by_cases undefined : (c :: cs).map Char.toLower = "nan".toList
    · exact ⟨_,if_pos undefined⟩
    · exact ⟨x,(if_neg undefined).trans number⟩

end Numerals

section Quoting

theorem stringTail_doubled (body : List Char) (stops : rest.head? ≠ some quote) :
    stringTail quote (doubled quote body ++ quote :: rest) = some (body,rest) := by
  induction body with
  | nil =>
    cases rest with
    | nil => simp [doubled,stringTail]
    | cons d rest =>
      have other : d ≠ quote := fun same => stops (congrArg some same)
      simp [doubled,stringTail,other]
  | cons c body ih =>
    by_cases same : c = quote
    · subst same
      have next : doubled c (c :: body) = c :: c :: doubled c body := by simp [doubled]
      rw [next,List.cons_append,List.cons_append,stringTail,if_pos rfl,if_pos rfl,ih]
      rfl
    · have next : doubled quote (c :: body) = c :: doubled quote body := by simp [doubled,same]
      obtain ⟨d,ds,more⟩ : ∃ d ds, doubled quote body ++ quote :: rest = d :: ds :=
        List.exists_cons_of_ne_nil (by simp)
      rw [next,List.cons_append,more,stringTail,if_neg same,← more,ih]
      rfl

theorem stringTail_canonical (closed : stringTail quote cs = some (body,rest)) :
    cs = doubled quote body ++ quote :: rest := by
  fun_induction stringTail quote cs generalizing body rest with
  | case1 => cases closed
  | case2 => cases closed; rfl
  | case3 => cases closed
  | case4 cs ih =>
    obtain ⟨⟨inner,left⟩,read,same⟩ := Option.map_eq_some_iff.mp closed
    cases same
    rw [ih read]
    simp [doubled]
  | case5 => cases closed; rfl
  | case6 c d cs other ih =>
    obtain ⟨⟨inner,left⟩,read,same⟩ := Option.map_eq_some_iff.mp closed
    cases same
    rw [ih read]
    simp [doubled,other]

end Quoting

section Words

-- Nothing, or a blank.
def Stops (rest : List Char) : Prop := ∀ d ∈ rest.head?, Unicode.isBlank d = true

theorem Stops.apart (stops : Stops rest) (inked : Unicode.isBlank c = false) : rest.head? ≠ some c := by
  intro first
  cases inked.symm.trans (stops c first)

theorem Stops.without {bad : Char → Bool} (stops : Stops rest) (inked : ∀ d, bad d = true → Unicode.isBlank d = false) :
    ∀ d ∈ rest.head?, bad d = false := by
  intro d first
  refine Bool.eq_false_iff.mpr fun found => ?_
  cases (inked d found).symm.trans (stops d first)

theorem Stops.pair (stops : Stops rest) : rest.head?.bind (pairSymbol? c) = none := by
  refine Option.bind_eq_none_iff.mpr fun d first => ?_
  have blank := stops d first
  unfold pairSymbol?
  split <;> first | rfl | exact absurd blank (by decide)

theorem Stops.digit (stops : Stops rest) : ∀ d ∈ rest.head?, d.isDigit = false ∧ d ≠ '.' := by
  intro d first
  refine ⟨stops.without (fun _ => Unicode.digit_not_blank) d first,?_⟩
  rintro rfl
  cases stops _ first

theorem scan_sign (sign : signSymbol? c = some symbol) (stops : Stops rest) :
    scan c rest = .ok (symbol,rest) := by
  have digitless : rest.head?.any Char.isDigit = false := by
    cases first : rest.head? with
    | none => rfl
    | some d => exact (stops.digit d first).1
  simp [scan,stops.pair,digitless,sign]

theorem scan_point (digit : cs.head?.any Char.isDigit = true) : scan '.' cs = scanNumber ('.' :: cs) := by
  cases cs with
  | nil => cases digit
  | cons d cs =>
    have found : d.isDigit = true := digit
    have apart : pairSymbol? '.' d = none := by
      unfold pairSymbol?
      split <;> first | rfl | exact absurd found (by decide)
    simp [scan,apart,found]

theorem scan_quote (either : quote = '\'' ∨ quote = '"') : scan quote cs = scanWord quote cs := by
  have single : ∀ d, pairSymbol? quote d = none := by
    rcases either with rfl | rfl <;> exact fun _ => rfl
  rcases either with rfl | rfl <;> simp [scan,no_pair single,signSymbol?]

-- A word at the front of a text is read as what it writes, if it stops there.
theorem scan_written (writes : Writes symbol text) (stops : Stops rest) :
    ∃ c cs, text = c :: cs ∧ Unicode.isBlank c = false ∧ scan c (cs ++ rest) = .ok (symbol,rest) := by
  cases writes with
  | sign sign =>
    cases symbol with
    | name | string | number | finish => cases sign
    | doubleSlash | dotDot | notEqual | lessEqual | greaterEqual | doubleColon =>
      cases sign
      exact ⟨_,_,rfl,by decide,rfl⟩
    | _ =>
      cases sign
      exact ⟨_,_,rfl,by decide,scan_sign rfl stops⟩
  | name named =>
    obtain ⟨c,tail,written,starts,scanned⟩ := scan_name named.isName fun d first =>
      ⟨stops.without (fun _ => part_not_blank) d first,fun same => stops.apart (by decide) (same ▸ first)⟩
    exact ⟨c,tail,written,word_not_blank starts,scanned⟩
  | @string quote body either =>
    have inked : Unicode.isBlank quote = false := by
      rcases either with rfl | rfl <;> decide
    refine ⟨_,_,rfl,inked,?_⟩
    have tail := stringTail_doubled body.toList (stops.apart inked)
    rw [List.append_assoc,List.singleton_append,scan_quote either,scanWord,if_pos either,tail]
    exact congrArg (fun s => Except.ok (Symbol.string s,rest)) String.ofList_toList
  | number numeral value =>
    obtain ⟨c,cs,rfl,starts⟩ := numeral.starts
    have tail := numeral.tail stops.digit
    rw [List.cons_append] at tail
    rcases starts with digit | ⟨rfl,digit⟩
    · exact ⟨c,cs,rfl,Unicode.digit_not_blank digit,scan_digit digit tail value⟩
    · refine ⟨_,cs,rfl,by decide,?_⟩
      have again : (cs ++ rest).head?.any Char.isDigit = true := by
        cases cs with
        | nil => cases digit
        | cons d cs => exact digit
      rw [scan_point again,scanNumber,tail]
      simp only [value]

theorem pair_sign (pair : pairSymbol? c d = some symbol) : symbol.sign? = some [c,d] := by
  unfold pairSymbol? at pair
  split at pair <;> cases pair <;> rfl

theorem sign_sign (sign : signSymbol? c = some symbol) : symbol.sign? = some [c] := by
  unfold signSymbol? at sign
  split at sign <;> cases sign <;> rfl

theorem scanNumber_canonical (starts : startsNumber c cs) (scanned : scanNumber (c :: cs) = .ok (symbol,rest)) :
    ∃ text, Writes symbol text ∧ c :: cs = text ++ rest := by
  have split := numberTail_split false (c :: cs)
  unfold scanNumber at scanned
  dsimp only at scanned
  split at scanned
  · rename_i x value
    cases scanned
    exact ⟨_,.number (numberTail_numeral starts) value,split.symm⟩
  · cases scanned

theorem scanWord_canonical (scanned : scanWord c cs = .ok (symbol,rest)) :
    ∃ text, Writes symbol text ∧ c :: cs = text ++ rest := by
  unfold scanWord at scanned
  split at scanned
  · rename_i either
    split at scanned
    · rename_i body left closed
      cases scanned
      have written : Writes (.string (String.ofList body)) _ := .string either
      rw [String.toList_ofList] at written
      refine ⟨_,written,?_⟩
      rw [stringTail_canonical closed]
      simp [enquoted]
    · cases scanned
  · split at scanned
    · rename_i digit
      exact scanNumber_canonical (.inl digit) scanned
    · split at scanned
      · rename_i start
        cases scanned
        have written : Writes (.name (String.ofList (c :: (nameTail false cs).1))) _ :=
          .name (by rw [String.toList_ofList]; exact nameTail_full start)
        rw [String.toList_ofList] at written
        exact ⟨_,written,by rw [List.cons_append,nameTail_split]⟩
      · split at scanned
        · cases scanned
        · split at scanned <;> cases scanned

-- What is read as a symbol is a word that writes it.
theorem scan_canonical (scanned : scan c cs = .ok (symbol,rest)) :
    ∃ text, Writes symbol text ∧ c :: cs = text ++ rest := by
  unfold scan at scanned
  split at scanned
  · rename_i pair
    cases scanned
    obtain ⟨d,first,pair⟩ := Option.bind_eq_some_iff.mp pair
    obtain ⟨ds,rfl⟩ := List.head?_eq_some_iff.mp first
    exact ⟨[c,d],.sign (pair_sign pair),rfl⟩
  · split at scanned
    · rename_i point
      simp only [Bool.and_eq_true,decide_eq_true_eq] at point
      exact scanNumber_canonical (.inr point) scanned
    · split at scanned
      · rename_i sign
        cases scanned
        exact ⟨[c],.sign (sign_sign sign),rfl⟩
      · exact scanWord_canonical scanned

theorem scanNumber_total (starts : startsNumber c cs) : scanNumber (c :: cs) ≠ .error problem := by
  obtain ⟨x,value⟩ := (numberTail_numeral starts).reads
  simp [scanNumber,value]

-- No text that is taken for a number fails to be one.
theorem scan_error (failed : scan c cs = .error problem) : ∀ text, problem ≠ .badNumber text := by
  rintro text rfl
  unfold scan at failed
  split at failed
  · cases failed
  · split at failed
    · rename_i point
      simp only [Bool.and_eq_true,decide_eq_true_eq] at point
      exact scanNumber_total (.inr point) failed
    · split at failed
      · cases failed
      · unfold scanWord at failed
        split at failed
        · split at failed <;> cases failed
        · split at failed
          · rename_i digit
            exact scanNumber_total (.inl digit) failed
          · split at failed
            · cases failed
            · split at failed
              · cases failed
              · split at failed <;> cases failed

end Words

end Query
end TreeAudit
