import TreeAudit.Query.Failure
import TreeAudit.Text.Slice

-- From the text of a query to its symbols. Each symbol is the longest one that starts at the first
-- character that is not blank; `scan` reads it and leaves a shorter text, so the symbols of a text are
-- found one after another.
namespace TreeAudit.Query

def isNameStart (c : Char) : Bool := Unicode.isAlphabetic c || c = '_'

def isNamePart (c : Char) : Bool := Unicode.isAlphanumeric c || c = '_' || c = '-'

-- The characters that continue a name, and what follows. One colon may stand in a name, before a
-- character that a name can start with.
def nameTail (seenColon : Bool) : List Char → List Char × List Char
  | [] => ([], [])
  | c :: cs =>
    if isNamePart c then
      let (tail, rest) := nameTail seenColon cs
      (c :: tail, rest)
    else if c = ':' && !seenColon && (cs.head?.any isNameStart) then
      let (tail, rest) := nameTail true cs
      (c :: tail, rest)
    else ([], c :: cs)

-- The characters of a number, and what follows. One point may stand in a number, before a
-- digit.
def numberTail (seenPoint : Bool) : List Char → List Char × List Char
  | [] => ([], [])
  | c :: cs =>
    if c.isDigit then
      let (tail, rest) := numberTail seenPoint cs
      (c :: tail, rest)
    else if c = '.' && !seenPoint && (cs.head?.any Char.isDigit) then
      let (tail, rest) := numberTail true cs
      (c :: tail, rest)
    else ([], c :: cs)

def stringTail (quote : Char) : List Char → Option (List Char × List Char)
  | [] => none
  | [c] => if c = quote then some ([], []) else none
  | c :: d :: cs =>
    if c = quote then
      if d = quote then (stringTail quote cs).map fun (body, rest) => (quote :: body, rest)
      else some ([], d :: cs)
    else (stringTail quote (d :: cs)).map fun (body, rest) => (c :: body, rest)

def scanNumber (cs : List Char) : Except SyntaxProblem (Symbol × List Char) :=
  let (text, rest) := numberTail false cs
  match Decimal.read? (String.ofList text) with
  | some x => .ok (.number x, rest)
  | none => .error (.badNumber (String.ofList text))

def pairSymbol? : Char → Char → Option Symbol
  | '/', '/' => some .doubleSlash
  | '.', '.' => some .dotDot
  | '!', '=' => some .notEqual
  | '<', '=' => some .lessEqual
  | '>', '=' => some .greaterEqual
  | ':', ':' => some .doubleColon
  | _, _ => none

def signSymbol? : Char → Option Symbol
  | '/' => some .slash
  | '.' => some .dot
  | '[' => some .leftBracket
  | ']' => some .rightBracket
  | '(' => some .leftParen
  | ')' => some .rightParen
  | '@' => some .at
  | ',' => some .comma
  | '*' => some .star
  | '|' => some .bar
  | '+' => some .plus
  | '-' => some .minus
  | '$' => some .dollar
  | '=' => some .equal
  | '<' => some .less
  | '>' => some .greater
  | _ => none

def scanWord (c : Char) (cs : List Char) : Except SyntaxProblem (Symbol × List Char) :=
  if c = '\'' ∨ c = '"' then
    match stringTail c cs with
    | some (body, rest) => .ok (.string (String.ofList body), rest)
    | none => .error .openString
  else if c.isDigit then scanNumber (c :: cs)
  else if isNameStart c then
    let (tail, rest) := nameTail false cs
    .ok (.name (String.ofList (c :: tail)), rest)
  else if c = '!' then .error .loneExclamation
  else if c = ':' then .error .loneColon
  else .error (.strayCharacter c)

-- The symbol that starts with the character `c`, which is not blank, and what follows it.
def scan (c : Char) (cs : List Char) : Except SyntaxProblem (Symbol × List Char) :=
  match cs.head?.bind (pairSymbol? c) with
  | some s => .ok (s, cs.tail)
  | none =>
    if c = '.' && cs.head?.any Char.isDigit then scanNumber (c :: cs)
    else match signSymbol? c with
      | some s => .ok (s, cs)
      | none => scanWord c cs

theorem nameTail_length (b : Bool) (cs : List Char) :
    (nameTail b cs).1.length + (nameTail b cs).2.length = cs.length := by
  induction cs generalizing b with
  | nil => rfl
  | cons c cs ih =>
    unfold nameTail
    split
    · have := ih b; simp only [List.length_cons]; omega
    · split
      · have := ih true; simp only [List.length_cons]; omega
      · simp

theorem numberTail_length (b : Bool) (cs : List Char) :
    (numberTail b cs).1.length + (numberTail b cs).2.length = cs.length := by
  induction cs generalizing b with
  | nil => rfl
  | cons c cs ih =>
    unfold numberTail
    split
    · have := ih b; simp only [List.length_cons]; omega
    · split
      · have := ih true; simp only [List.length_cons]; omega
      · simp

theorem stringTail_length {q : Char} {cs body rest : List Char}
    (h : stringTail q cs = some (body, rest)) : rest.length < cs.length := by
  induction hn : cs.length using Nat.strongRecOn generalizing cs body rest with
  | _ n ih =>
    unfold stringTail at h
    split at h
    · simp at h
    · split at h
      · simp at h; simp [← hn, ← h.2]
      · simp at h
    · split at h
      · split at h
        · simp only [Option.map_eq_some_iff, Prod.mk.injEq, Prod.exists] at h
          obtain ⟨b, r, h, _, rfl⟩ := h
          have := ih _ (by simp only [List.length_cons] at hn; omega) h rfl
          simp only [List.length_cons] at hn; omega
        · simp at h; simp [← hn, ← h.2]
      · simp only [Option.map_eq_some_iff, Prod.mk.injEq, Prod.exists] at h
        obtain ⟨b, r, h, _, rfl⟩ := h
        have := ih _ (by simp only [List.length_cons] at hn ⊢; omega) h rfl
        simp only [List.length_cons] at hn this; omega

theorem scanNumber_length {c : Char} {cs rest : List Char} {s : Symbol}
    (hc : c.isDigit ∨ c = '.' ∧ cs.head?.any Char.isDigit = true)
    (h : scanNumber (c :: cs) = .ok (s, rest)) : rest.length ≤ cs.length := by
  have hl := numberTail_length false (c :: cs)
  have hp : 0 < (numberTail false (c :: cs)).1.length := by
    unfold numberTail
    rcases hc with hc | ⟨rfl, hd⟩
    · simp [hc]
    · split <;> simp_all
  unfold scanNumber at h
  simp only at h
  split at h
  · simp only [Except.ok.injEq, Prod.mk.injEq] at h
    rw [← h.2]
    simp only [List.length_cons] at hl; omega
  · simp at h

theorem scanWord_length {c : Char} {cs rest : List Char} {s : Symbol}
    (h : scanWord c cs = .ok (s, rest)) : rest.length ≤ cs.length := by
  unfold scanWord at h
  split at h
  · split at h
    · rename_i hs
      simp only [Except.ok.injEq, Prod.mk.injEq] at h
      have := stringTail_length hs
      rw [← h.2]; omega
    · simp at h
  · split at h
    · rename_i hd; exact scanNumber_length (.inl hd) h
    · split at h
      · simp only [Except.ok.injEq, Prod.mk.injEq] at h
        have := nameTail_length false cs
        rw [← h.2]; omega
      · repeat' split at h
        all_goals simp at h

theorem scan_length {c : Char} {cs rest : List Char} {s : Symbol}
    (h : scan c cs = .ok (s, rest)) : rest.length ≤ cs.length := by
  unfold scan at h
  split at h
  · simp only [Except.ok.injEq, Prod.mk.injEq] at h
    rw [← h.2]; simp
  · split at h
    · rename_i hd
      simp only [Bool.and_eq_true, decide_eq_true_eq] at hd
      exact scanNumber_length (.inr hd) h
    · split at h
      · simp only [Except.ok.injEq, Prod.mk.injEq] at h
        exact Nat.le_of_eq (congrArg List.length h.2.symm)
      · exact scanWord_length h

def tokensFrom (offset : Nat) (cs : List Char) : Except Failure (List Token) :=
  match cs with
  | [] => .ok [⟨.finish, offset⟩]
  | c :: cs =>
    if Unicode.isBlank c then tokensFrom (offset + c.utf8Size) cs
    else match _h : scan c cs with
      | .error p => .error (.badSyntax offset p)
      | .ok (s, rest) => do
        let width := Text.byteLength (c :: cs) - Text.byteLength rest
        let tokens ← tokensFrom (offset + width) rest
        pure (⟨s, offset⟩ :: tokens)
termination_by cs.length
decreasing_by
  · simp
  · have := scan_length _h; simp only [List.length_cons]; omega

def tokenize (source : String) : Except Failure (List Token) := tokensFrom 0 source.toList

end TreeAudit.Query
