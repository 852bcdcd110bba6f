import TreeAudit.Pattern.Size
import TreeAudit.Decimal.Style

-- The written form of patterns. Reading goes from left to right with the flags that are in force;
-- flags set inside a group end with it. A text that is no pattern is read as nothing.
namespace TreeAudit.Pattern

structure Flags where
  ignoreCase : Bool := false
  multiLine : Bool := false
  dotAll : Bool := false
  crlf : Bool := false
  unicode : Bool := true
  extended : Bool := false
deriving Repr, DecidableEq

def dropSpace (inComment : Bool) : List Char → List Char
  | [] => []
  | c :: cs =>
    if inComment then dropSpace (c ≠ '\n') cs
    else if Unicode.isBlank c then dropSpace false cs
    else if c = '#' then dropSpace true cs
    else c :: cs

-- Blanks and comments count only without the extended flag.
def Flags.skip (f : Flags) (cs : List Char) : List Char :=
  if f.extended then dropSpace false cs else cs

def Flags.next (f : Flags) (cs : List Char) : List Char := f.skip (cs.drop 1)

-- ### Numbers and repetition counts

def Flags.digitsFrom (f : Flags) : Nat → List Char → List Char × List Char
  | 0, cs => ([], cs)
  | _ + 1, [] => ([], [])
  | n + 1, c :: cs =>
    if c.isDigit then
      let (ds, rest) := f.digitsFrom n (f.skip cs)
      (c :: ds, rest)
    else ([], c :: cs)

def Flags.count? (f : Flags) (cs : List Char) : Option (Nat × List Char) :=
  let (ds, rest) := f.digitsFrom cs.length (cs.dropWhile Unicode.isBlank)
  let n := Decimal.digitsValue ds
  if ds.isEmpty ∨ Nat.pow 2 32 ≤ n then none else some (n, rest.dropWhile Unicode.isBlank)

def dropLazy : List Char → List Char
  | '?' :: cs => cs
  | cs => cs

def Flags.bounds? (f : Flags) (cs : List Char) : Option ((Nat × Option Nat) × List Char) := do
  let (least, cs) ← f.count? cs
  let (most, cs) ← match cs with
    | ',' :: _ =>
      match f.next cs with
      | '\x7d' :: rest => some (none, '\x7d' :: rest)
      | cs => do
        let (n, cs) ← f.count? cs
        some (some n, cs)
    | cs => some (some least, cs)
  match cs with
  | '\x7d' :: _ =>
    if most.all (least ≤ ·) then some ((least, most), dropLazy (f.next cs)) else none
  | _ => none

-- ### Escapes

inductive Escape
  | char (c : Char)
  | set (s : CharSet)
  | boundary (b : Boundary)

def hexValue? (c : Char) : Option Nat :=
  if c.isDigit then some (c.toNat - 0x30)
  else if 'a' ≤ c ∧ c ≤ 'f' then some (c.toNat - 0x57)
  else if 'A' ≤ c ∧ c ≤ 'F' then some (c.toNat - 0x37)
  else none

-- The character with a number, unless the number is none of a character.
def charOfNumber? (n : Nat) : Option Char := if n.isValidChar then some (Char.ofNat n) else none

def Flags.fixedHex? (f : Flags) : Nat → Nat → List Char → Option (Nat × List Char)
  | 0, value, cs => some (value, cs)
  | _ + 1, _, [] => none
  | count + 1, value, c :: cs => do
    let d ← hexValue? c
    f.fixedHex? count (value * 16 + d) (f.skip cs)

def Flags.bracedHex? (f : Flags) : Nat → Option Nat → List Char → Option (Nat × List Char)
  | 0, _, _ => none
  | _ + 1, _, [] => none
  | n + 1, value, c :: cs =>
    if c = '\x7d' then value.map fun v => (v, f.skip cs)
    else do
      let d ← hexValue? c
      f.bracedHex? n (some (min (value.getD 0 * 16 + d) 0x110000)) (f.skip cs)

def Flags.hexEscape? (f : Flags) (kind : Char) (cs : List Char) : Option (Char × List Char) := do
  let (n, rest) ← match cs with
    | '\x7b' :: _ => f.bracedHex? (cs.length + 1) none (f.next cs)
    | _ => f.fixedHex? (if kind = 'x' then 2 else if kind = 'u' then 4 else 8) 0 cs
  let c ← charOfNumber? n
  -- a lone byte outside ASCII is no character
  if kind = 'x' ∧ cs.head? ≠ some '\x7b' ∧ !f.unicode ∧ 0x80 ≤ n then none else some (c, rest)

-- The parts of a text before and after the first occurrence of a separator.
def splitAt? (sep : List Char) : List Char → Option (List Char × List Char)
  | [] => none
  | c :: cs =>
    if sep.isPrefixOf (c :: cs) then some ([], (c :: cs).drop sep.length)
    else (splitAt? sep cs).map fun (a, b) => (c :: a, b)

def classQuery? (cs : List Char) : Option (CharSet × Bool) :=
  let valued (parts : List Char × List Char) (negated : Bool) :=
    (CharSet.valued? (String.ofList parts.1) (String.ofList parts.2)).map (·, negated)
  match splitAt? ['!', '='] cs, splitAt? [':'] cs, splitAt? ['='] cs with
  | some parts, _, _ => valued parts true
  | none, some parts, _ => valued parts false
  | none, none, some parts => valued parts false
  | none, none, none => (CharSet.named? (String.ofList cs)).map (·, false)

def Flags.namedSet? (f : Flags) (negated : Bool) (cs : List Char) : Option (CharSet × List Char) := do
  let ((set, flipped), rest) ← match cs with
    | '\x7b' :: _ =>
      let body := f.next cs
      let name := body.takeWhile (· ≠ '\x7d')
      match body.dropWhile (· ≠ '\x7d') with
      | [] => none
      | _ :: rest => do
        let name := if f.extended then name.filter (!Unicode.isBlank ·) else name
        some (← classQuery? name, rest)
    | '\\' :: _ => none
    | [] => none
    | c :: _ => do
      let set ← CharSet.category? (String.ofList [c.toLower])
      some ((set, false), f.next cs)
  if !f.unicode then none
  else
    let set := if f.ignoreCase then set.ignoringCase else set
    some (if negated != flipped then set.complement else set, rest)

def Flags.letterSet? (f : Flags) (c : Char) : Option CharSet :=
  let set := match c.toLower with
    | 'd' => if f.unicode then CharSet.digits else CharSet.asciiDigits
    | 's' => if f.unicode then CharSet.blanks else CharSet.asciiBlanks
    | _ => if f.unicode then CharSet.wordParts else CharSet.asciiWordParts
  if c.isUpper then if f.unicode then some set.complement else none else some set

def isSign (c : Char) : Bool := "\\.+*?()|[]\x7b\x7d^$#&-~".toList.contains c

def isEscapable (c : Char) : Bool :=
  isSign c || (c.toNat < 0x80 && !c.isAlphanum && c ≠ '<' && c ≠ '>')

-- The kind of word boundary named in braces, if there are braces with a name in them. Braces that
-- do not start with a letter or hyphen are left for a repetition.
def Flags.wordBoundary? (f : Flags) (cs : List Char) : Option (Boundary × List Char) :=
  let isNamePart (c : Char) : Bool := c.isAlpha || c = '-'
  match cs with
  | '\x7b' :: _ =>
    match f.next cs with
    | [] => none
    | c :: body =>
      if !isNamePart c then some (.word f.unicode, cs)
      else
        let spaced (d : Char) : Bool := isNamePart d || (f.extended && Unicode.isBlank d)
        let name := ((c :: body).takeWhile spaced).filter isNamePart
        match (c :: body).dropWhile spaced with
        | '\x7d' :: rest =>
          match String.ofList name with
          | "start" => some (.wordStart f.unicode, rest)
          | "end" => some (.wordEnd f.unicode, rest)
          | "start-half" => some (.wordStartHalf f.unicode, rest)
          | "end-half" => some (.wordEndHalf f.unicode, rest)
          | _ => none
        | _ => none
  | _ => some (.word f.unicode, cs)

def Flags.escape? (f : Flags) : List Char → Option (Escape × List Char)
  | [] => none
  | c :: cs =>
    let char (d : Char) := some (Escape.char d, cs)
    if c = 'x' ∨ c = 'u' ∨ c = 'U' then
      match f.skip cs with
      | [] => none
      | rest => (f.hexEscape? c rest).map fun (d, rest) => (.char d, rest)
    else if c = 'p' ∨ c = 'P' then
      (f.namedSet? (c = 'P') (f.skip cs)).map fun (s, rest) => (.set s, rest)
    else if "dswDSW".toList.contains c then (f.letterSet? c).map fun s => (.set s, cs)
    else if isEscapable c then char c
    else match c with
      | 'a' => char '\x07'
      | 'f' => char '\x0c'
      | 't' => char '\t'
      | 'n' => char '\n'
      | 'r' => char '\r'
      | 'v' => char '\x0b'
      | 'A' => some (.boundary .textStart, cs)
      | 'z' => some (.boundary .textEnd, cs)
      | 'b' => (f.wordBoundary? cs).map fun (b, rest) => (.boundary b, rest)
      | 'B' => some (.boundary (.notWord f.unicode), cs)
      | '<' => some (.boundary (.wordStart f.unicode), cs)
      | '>' => some (.boundary (.wordEnd f.unicode), cs)
      | _ => none

-- ### Bracketed sets

inductive SetOperation
  | inter
  | diff
  | symmDiff

def Flags.fold (f : Flags) (s : CharSet) : CharSet :=
  if !f.ignoreCase then s else if f.unicode then s.ignoringCase else s.ignoringAsciiCase

-- A set that may be complemented; without Unicode a complement would hold lone bytes.
def Flags.negate? (f : Flags) (negated : Bool) (s : CharSet) : Option CharSet :=
  if !negated then some s else if f.unicode then some s.complement else none

-- The operands before and after an operator put together.
def Flags.combine (f : Flags) (pending : Option (SetOperation × CharSet)) (s : CharSet) : CharSet :=
  match pending with
  | none => s
  | some (op, left) =>
    let (a, b) := (f.fold left, f.fold s)
    match op with
    | .inter => a.inter b
    | .diff => a.diff b
    | .symmDiff => a.symmDiff b

def Flags.asciiClass? (f : Flags) (cs : List Char) : Option (Option CharSet × List Char) :=
  match cs with
  | '[' :: ':' :: body =>
    let (negated, body) := match body with
      | '^' :: rest => (true, rest)
      | rest => (false, rest)
    match body.dropWhile (· ≠ ':') with
    | ':' :: ']' :: rest =>
      (CharSet.asciiClass? (String.ofList (body.takeWhile (· ≠ ':')))).map fun s =>
        (f.negate? negated (f.fold s), rest)
    | _ => none
  | _ => none

def Flags.member? (f : Flags) : List Char → Option (Escape × List Char)
  | [] => none
  | '\\' :: cs => f.escape? cs
  | c :: cs => some (.char c, cs)

-- A character of a set; without Unicode only ASCII can be one.
def Flags.setChar? (f : Flags) (e : Escape) : Option Char :=
  match e with
  | .char c => if f.unicode ∨ c.toNat < 0x80 then some c else none
  | _ => none

def Flags.range? (f : Flags) (cs : List Char) : Option (CharSet × List Char) := do
  let (e, cs) ← f.member? cs
  let cs := f.skip cs
  let ahead := (f.next cs).head?
  match cs with
  | [] => none
  | c :: _ =>
    if c ≠ '-' ∨ ahead = some ']' ∨ ahead = some '-' then
      match e with
      | .set s => some (s, cs)
      | .char _ => (f.setChar? e).map fun c => (CharSet.single c, cs)
      | .boundary _ => none
    else
      let (e', cs) ← f.member? (f.next cs)
      let first ← f.setChar? e
      let last ← f.setChar? e'
      if first ≤ last then some ([(first.toNat, last.toNat)], cs) else none

def Flags.leadingHyphens (f : Flags) : Nat → CharSet → List Char → CharSet × List Char
  | 0, s, cs => (s, cs)
  | n + 1, s, cs =>
    match cs with
    | '-' :: _ => f.leadingHyphens n (CharSet.single '-') (f.next cs)
    | _ => (s, cs)

-- The start of a set after its opening bracket: a caret, hyphens, and a closing bracket in first
-- place, which stands for itself.
def Flags.openSet? (f : Flags) (cs : List Char) : Option (Bool × CharSet × List Char) :=
  let (negated, cs) := match cs with
    | '^' :: _ => (true, f.next cs)
    | cs => (false, cs)
  let (s, cs) := f.leadingHyphens cs.length [] cs
  match cs with
  | [] => none
  | ']' :: _ =>
    if s.isEmpty then
      match f.next cs with
      | [] => none
      | rest => some (negated, CharSet.single ']', rest)
    else some (negated, s, cs)
  | cs => some (negated, s, cs)

def Flags.setFrom? (f : Flags) : Nat → Bool → Option (SetOperation × CharSet) → CharSet →
    List Char → Option (CharSet × List Char)
  | 0, _, _, _, _ => none
  | n + 1, negated, pending, s, cs =>
    match f.skip cs with
    | [] => none
    | ']' :: rest => do
      let set ← f.negate? negated (f.fold (f.combine pending s))
      some (set, rest)
    | '&' :: '&' :: rest => f.setFrom? n negated (some (.inter, f.combine pending s)) [] rest
    | '-' :: '-' :: rest => f.setFrom? n negated (some (.diff, f.combine pending s)) [] rest
    | '~' :: '~' :: rest => f.setFrom? n negated (some (.symmDiff, f.combine pending s)) [] rest
    | '[' :: rest =>
      match f.asciiClass? ('[' :: rest) with
      | some (set, rest) => do
        let set ← set
        f.setFrom? n negated pending (s.union set) rest
      | none => do
        let (innerNegated, start, rest) ← f.openSet? (f.skip rest)
        let (inner, rest) ← f.setFrom? n innerNegated none start rest
        f.setFrom? n negated pending (s.union inner) rest
    | cs => do
      let (set, rest) ← f.range? cs
      f.setFrom? n negated pending (s.union set) rest

-- ### Groups and the whole pattern

def setFlags? (on : Bool) (seen : List Char) (f : Flags) : List Char → Option (Flags × List Char)
  | [] => none
  | c :: cs =>
    if c = ':' ∨ c = ')' then
      if seen.head? = some '-' then none else some (f, c :: cs)
    else if seen.contains c then none
    else match c with
      | '-' => setFlags? false (c :: seen) f cs
      | 'i' => setFlags? on (c :: seen) { f with ignoreCase := on } cs
      | 'm' => setFlags? on (c :: seen) { f with multiLine := on } cs
      | 's' => setFlags? on (c :: seen) { f with dotAll := on } cs
      | 'R' => setFlags? on (c :: seen) { f with crlf := on } cs
      | 'u' => setFlags? on (c :: seen) { f with unicode := on } cs
      | 'x' => setFlags? on (c :: seen) { f with extended := on } cs
      | 'U' => setFlags? on (c :: seen) f cs
      | _ => none

def groupName? (cs : List Char) : Option (String × List Char) :=
  let name := cs.takeWhile (· ≠ '>')
  let isStart (c : Char) : Bool := c = '_' || Unicode.isAlphabetic c
  let isPart (c : Char) : Bool :=
    c = '_' || c = '.' || c = '[' || c = ']' || Unicode.isAlphanumeric c
  match name, cs.dropWhile (· ≠ '>') with
  | c :: rest, '>' :: after =>
    if isStart c && rest.all isPart then some (String.ofList name, after) else none
  | _, _ => none

-- A pattern under construction: the alternatives before the last bar and the parts after it,
-- latest first. A part without a pattern has set flags and cannot be repeated.
structure Draft where
  alternatives : List Sized
  parts : List (Option Sized)

namespace Draft

def start : Draft := ⟨[], []⟩

def push (d : Draft) (p : Sized) : Draft := { d with parts := some p :: d.parts }

def pushFlags (d : Draft) : Draft := { d with parts := none :: d.parts }

def sequence (d : Draft) : Sized := Sized.sequence (d.parts.map (·.getD .nothing)).reverse

def bar (d : Draft) : Draft := ⟨d.sequence :: d.alternatives, []⟩

def finish (d : Draft) : Sized := Sized.alternatives (d.sequence :: d.alternatives).reverse

def repeat? (d : Draft) (least : Nat) (most : Option Nat) : Option Draft :=
  match d.parts with
  | some p :: rest => some { d with parts := some (p.times least most) :: rest }
  | _ => none

end Draft

def Flags.charPattern (f : Flags) (c : Char) : Sized := .ofSet (f.fold (CharSet.single c))

def Flags.dot? (f : Flags) : Option Sized :=
  if !f.unicode then none
  else if f.dotAll then some (.ofSet CharSet.every)
  else if f.crlf then some (.ofSet (CharSet.complement [(0x0A, 0x0A), (0x0D, 0x0D)]))
  else some (.ofSet (CharSet.complement [(0x0A, 0x0A)]))

def Flags.lineStart (f : Flags) : Boundary :=
  if !f.multiLine then .textStart else if f.crlf then .crlfLineStart else .lineStart

def Flags.lineEnd (f : Flags) : Boundary :=
  if !f.multiLine then .textEnd else if f.crlf then .crlfLineEnd else .lineEnd

inductive GroupStart
  | group (f : Flags) (captures : Bool) (names : List String) (rest : List Char)
  | flags (f : Flags) (rest : List Char)

def Flags.groupStart? (f : Flags) (names : List String) (cs : List Char) : Option GroupStart :=
  let named (body : List Char) : Option GroupStart := do
    let (name, rest) ← groupName? body
    if names.contains name then none else some (.group f true (name :: names) rest)
  match f.skip cs with
  | '?' :: '=' :: _ => none
  | '?' :: '!' :: _ => none
  | '?' :: '<' :: '=' :: _ => none
  | '?' :: '<' :: '!' :: _ => none
  | '?' :: 'P' :: '<' :: body => named body
  | '?' :: '<' :: body => named body
  | '?' :: body => do
    let (g, rest) ← setFlags? true [] f body
    match rest with
    | ')' :: rest => if body.head? = some ')' then none else some (.flags g rest)
    | ':' :: rest => some (.group g false names rest)
    | _ => none
  | rest => some (.group f true names rest)

-- Reads up to the end of the text or of the group. Answers the pattern, the names of groups seen
-- and what follows.
def read : Nat → Bool → Flags → List String → Draft → List Char →
    Option (Sized × List String × List Char)
  | 0, _, _, _, _, _ => none
  | n + 1, inGroup, f, names, d, cs =>
    match f.skip cs with
    | [] => if inGroup then none else some (d.finish, names, [])
    | '(' :: rest => do
      match ← f.groupStart? names rest with
      | .flags g rest => read n inGroup g names d.pushFlags rest
      | .group g captures names rest =>
        let (p, names, rest) ← read n true g names Draft.start rest
        read n inGroup f names (d.push (p.group captures)) rest
    | ')' :: rest => if inGroup then some (d.finish, names, rest) else none
    | '|' :: rest => read n inGroup f names d.bar rest
    | '[' :: rest => do
      let (negated, start, rest) ← f.openSet? (f.skip rest)
      let (set, rest) ← f.setFrom? (rest.length + 1) negated none start rest
      read n inGroup f names (d.push (Sized.ofSet set).bracketed) rest
    | '?' :: rest => do read n inGroup f names (← d.repeat? 0 (some 1)) (dropLazy rest)
    | '*' :: rest => do read n inGroup f names (← d.repeat? 0 none) (dropLazy rest)
    | '+' :: rest => do read n inGroup f names (← d.repeat? 1 none) (dropLazy rest)
    | '\x7b' :: rest => do
      let ((least, most), rest) ← f.bounds? (f.skip rest)
      read n inGroup f names (← d.repeat? least most) rest
    | '\\' :: rest => do
      let (e, rest) ← f.escape? rest
      let p : Sized := match e with
        | .char c => f.charPattern c
        | .set s => .ofSet s
        | .boundary b => .ofBoundary b
      read n inGroup f names (d.push p) rest
    | '.' :: rest => do read n inGroup f names (d.push (← f.dot?)) rest
    | '^' :: rest => read n inGroup f names (d.push (.ofBoundary f.lineStart)) rest
    | '$' :: rest => read n inGroup f names (d.push (.ofBoundary f.lineEnd)) rest
    | c :: rest => read n inGroup f names (d.push (f.charPattern c)) rest

def ofText? (s : String) : Option Pattern := do
  let cs := s.toList
  let (p, _, _) ← read (cs.length + 1) false {} [] Draft.start cs
  if p.isAcceptable then some p.pattern else none

end TreeAudit.Pattern
