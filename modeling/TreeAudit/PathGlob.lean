import TreeAudit.Pattern.Basic

-- Path patterns with wildcards. A question mark stands for one byte and a star for any number, slashes
-- included; brackets hold classes of characters and braces alternatives; two stars between slashes stand
-- for any number of directories. A backslash takes a sign for itself.
namespace TreeAudit.PathGlob

inductive Piece
  | literal (c : Char)
  | any
  | anyMany
  | anyDirectories
  | anyBelow
  | anyBetween
  | bracket (negated : Bool) (ranges : List (Char × Char))
  | alternatives (choices : List (List Piece))
deriving Repr, Inhabited

abbrev Branch := List Piece

-- Reading in progress. `top` holds the pieces of the current branch, last first; each open brace has
-- an entry in `outer`: the branch around it and its choices so far.
structure Reading where
  top : Branch := []
  outer : List (Branch × List Branch) := []

namespace Reading

def push (r : Reading) (p : Piece) : Reading := { r with top := p :: r.top }

def openBrace (r : Reading) : Reading := ⟨[], (r.top, []) :: r.outer⟩

-- Ends a choice; outside of braces a comma is a comma.
def comma (r : Reading) : Reading :=
  match r.outer with
  | [] => r.push (.literal ',')
  | (around, choices) :: outer => ⟨[], (around, r.top :: choices) :: outer⟩

def closeBrace (r : Reading) : Option Reading :=
  match r.outer with
  | [] => none
  | (around, choices) :: outer =>
    some ⟨.alternatives ((r.top :: choices).map List.reverse) :: around, outer⟩

end Reading

-- Two stars that stand for directories, or for two stars. `before` is the character before them; the
-- characters after them are given, and what is left of these is answered.
def directories (r : Reading) (before : Option Char) (after : List Char) : Reading × List Char :=
  let stars := ((r.push .anyMany).push .anyMany, after)
  let inBraces := !r.outer.isEmpty
  if r.top.isEmpty then
    match after with
    | [] => (r.push .anyDirectories, [])
    | '/' :: rest => (r.push .anyDirectories, rest)
    | _ => stars
  else if before ≠ some '/' && !(inBraces && (before = some ',' || before = some '\x7b')) then stars
  else
    let joined (last : Bool) : Reading :=
      match r.top with
      | .anyDirectories :: _ => r
      | .anyBelow :: _ => r
      | _ => { r with top := (if last then .anyBelow else .anyBetween) :: r.top.drop 1 }
    match after with
    | [] => (joined true, [])
    | c :: rest =>
      if inBraces && (c = ',' || c = '\x7d') then (joined true, after)
      else if c = '/' then (joined false, rest)
      else stars

-- Reads the members of a class, last first, up to the closing bracket. A bracket or a minus sign that
-- comes first is a member, and so is a minus sign that comes last.
def members : Bool → Bool → List (Char × Char) → List Char → Option (List (Char × Char) × List Char)
  | _, _, _, [] => none
  | first, inRange, ranges, c :: rest =>
    if c = ']' && !first then
      some (if inRange then ('-', '-') :: ranges else ranges, rest)
    else if c = '-' && !first && !inRange then members false true ranges rest
    else if inRange then
      match ranges with
      | (start, _) :: others =>
        if c < start then none else members false false ((start, c) :: others) rest
      | [] => none
    else members false false ((c, c) :: ranges) rest

def read : Nat → Option Char → Reading → List Char → Option Reading
  | 0, _, r, _ => some r
  | _, _, r, [] => some r
  | steps + 1, before, r, c :: rest =>
    match c with
    | '?' => read steps (some c) (r.push .any) rest
    | '*' =>
      match rest with
      | '*' :: after =>
        let (r, left) := directories r before after
        -- the character before the rest is the last one passed
        let passed := if left.length < after.length then some '/' else some '*'
        read steps passed r left
      | _ => read steps (some c) (r.push .anyMany) rest
    | '[' => do
      let (negated, body) := match rest with
        | '!' :: body => (true, body)
        | '^' :: body => (true, body)
        | body => (false, body)
      let (ranges, rest) ← members true false [] body
      read steps (some ']') (r.push (.bracket negated ranges)) rest
    | '\x7b' => read steps (some c) r.openBrace rest
    | '\x7d' => do
      let r ← r.closeBrace
      read steps (some c) r rest
    | ',' => read steps (some c) r.comma rest
    | '\\' =>
      match rest with
      | [] => none
      | c :: rest => read steps (some c) (r.push (.literal c)) rest
    | c => read steps (some c) (r.push (.literal c)) rest

-- The pieces of a path pattern, unless it is malformed.
def pieces? (pattern : String) : Option (List Piece) := do
  let cs := pattern.toList
  let r ← read (cs.length + 1) none {} cs
  if r.outer.isEmpty then some r.top.reverse else none

def byteChars (s : String) : List Char := s.toUTF8.toList.map fun b => Char.ofNat b.toNat

def oneByte (ranges : List (Nat × Nat)) : Pattern := .oneOf (Pattern.CharSet.ofRanges ranges)

def anyByte : Pattern := oneByte [(0, 255)]

def exactly (bytes : List Char) : Pattern :=
  bytes.foldr (fun b p => .seq (oneByte [(b.toNat, b.toNat)]) p) .nothing

def below : Pattern := .seq (exactly ['/']) (.times anyByte 0 none)

-- The bytes of a range of characters: those of both ends, and those between the last byte of the
-- first and the first byte of the last.
def classRanges (range : Char × Char) : List (Nat × Nat) :=
  let first := (byteChars range.1.toString).map Char.toNat
  let last := (byteChars range.2.toString).map Char.toNat
  if range.1 = range.2 then first.map fun b => (b, b)
  else
    (first.dropLast.map fun b => (b, b)) ++ (last.drop 1).map (fun b => (b, b)) ++
      [(first.getLastD 0, last.headD 0)]

-- All bytes but those of some ranges.
def otherBytes (ranges : List (Nat × Nat)) : List (Nat × Nat) :=
  Pattern.CharSet.inter [(0, 255)] (Pattern.CharSet.complement (Pattern.CharSet.ofRanges ranges))

mutual

-- Whether a piece asks for nothing at all, which only alternatives can.
def isVacuous : Piece → Bool
  | .alternatives choices => areVacuous choices
  | _ => false

def isVacuousRow : List Piece → Bool
  | [] => true
  | p :: ps => isVacuous p && isVacuousRow ps

def areVacuous : List (List Piece) → Bool
  | [] => true
  | c :: cs => isVacuousRow c && areVacuous cs

end

mutual

def patternOf : Piece → Pattern
  | .literal c => exactly (byteChars c.toString)
  | .any => anyByte
  | .anyMany => .times anyByte 0 none
  | .anyDirectories =>
    .alt (.times (exactly ['/']) 0 (some 1)) (.seq (.times anyByte 0 none) (exactly ['/']))
  | .anyBelow => below
  | .anyBetween => .alt (exactly ['/']) (.seq below (exactly ['/']))
  | .bracket negated ranges =>
    let bytes := ranges.flatMap classRanges
    oneByte (if negated then otherBytes bytes else bytes)
  | .alternatives choices => patternOfChoices choices

def patternOfAll : List Piece → Pattern
  | [] => .nothing
  | p :: ps => .seq (patternOf p) (patternOfAll ps)

-- The choices that ask for something; without any, nothing is asked for.
def patternOfChoices : List (List Piece) → Pattern
  | [] => .nothing
  | c :: cs =>
    if isVacuousRow c then patternOfChoices cs
    else if areVacuous cs then patternOfAll c
    else .alt (patternOfAll c) (patternOfChoices cs)

end

def wholePattern (ps : List Piece) : Pattern :=
  match ps with
  | [.anyDirectories] => .times anyByte 0 none
  | ps => .seq (.boundary .textStart) (.seq (patternOfAll ps) (.boundary .textEnd))

-- Whether a path matches; nothing matches a malformed pattern.
def isMatch (pattern path : String) : Bool :=
  match pieces? pattern with
  | some ps => (wholePattern ps).isMatch (String.ofList (byteChars path))
  | none => false

end TreeAudit.PathGlob
