import TreeAudit.Yaml.Tag

-- The tokens of a YAML text. Indentation becomes tokens that open and close block collections. A scalar
-- turns out to be a key only when a colon follows it, so the place of a possible key is kept for each
-- open bracket, and the token for the key is put there later.
namespace TreeAudit.Yaml

inductive Token
  | directive (d : Directive)
  | documentStart
  | documentEnd
  | blockSequenceStart
  | blockMappingStart
  | blockEnd
  | flowSequenceStart
  | flowSequenceEnd
  | flowMappingStart
  | flowMappingEnd
  | blockEntry
  | flowEntry
  | key
  | value
  | alias (name : String)
  | anchor (name : String)
  | tag (t : WrittenTag)
  | scalar (s : Scalar)
deriving Repr, DecidableEq

-- A place where a key may have started: how many tokens stood before it, where it is, and whether
-- there has to be a key.
structure PossibleKey where
  before : Nat
  index : Nat
  line : Nat
  column : Nat
  required : Bool
deriving Repr

-- Reading in progress. The indentation of a text without block collections is minus one; `keys` has
-- one entry for each open bracket and a last one for the text outside.
structure Scan where
  cursor : Cursor
  tokens : Array Token := #[]
  flow : Nat := 0
  indent : Int := -1
  outer : List Int := []
  keyAllowed : Bool := true
  keys : List (Option PossibleKey) := [none]

namespace Scan

def push (s : Scan) (t : Token) : Scan := { s with tokens := s.tokens.push t }

def pushPast (s : Scan) (t : Token) (n : Nat) : Scan :=
  { s.push t with cursor := s.cursor.advance n }

def currentKey (s : Scan) : Option PossibleKey := s.keys.head?.join

def setKey (s : Scan) (k : Option PossibleKey) : Scan := { s with keys := k :: s.keys.drop 1 }

-- Gives up the possible key of the innermost bracket, unless there has to be one.
def dropKey (s : Scan) : Option Scan :=
  if s.currentKey.any (·.required) then none else some (s.setKey none)

def dropOldKeys (s : Scan) : Option Scan := do
  let isOld (k : PossibleKey) : Bool :=
    k.line < s.cursor.line || k.index + 1024 < s.cursor.index
  let keys ← s.keys.mapM fun
    | some k => if isOld k then (if k.required then none else some none) else some (some k)
    | none => some none
  some { s with keys }

def noteKey (s : Scan) : Option Scan :=
  if s.keyAllowed then do
    let s ← s.dropKey
    let c := s.cursor
    let required := s.flow = 0 && s.indent = (c.column : Int)
    some (s.setKey (some ⟨s.tokens.size, c.index, c.line, c.column, required⟩))
  else some s

-- Opens a block collection at a column that is further in, with its token put before the tokens
-- after the first `before`.
def openBlock (s : Scan) (column : Nat) (before : Nat) (t : Token) : Scan :=
  if s.flow = 0 && s.indent < (column : Int) then
    { s with
      tokens := s.tokens.insertIdxIfInBounds (min before s.tokens.size) t
      indent := column
      outer := s.indent :: s.outer }
  else s

def closeBlocks (column : Int) : List Int → Scan → Scan
  | outer, s =>
    if s.flow = 0 && column < s.indent then
      match outer with
      | i :: rest => closeBlocks column rest { s.push .blockEnd with indent := i, outer := rest }
      | [] => { s.push .blockEnd with indent := -1 }
    else s

def closeTo (s : Scan) (column : Int) : Scan := closeBlocks column s.outer s

-- Goes past blanks, comments and line ends. A tab may not stand where a key can start, outside of
-- brackets.
def skipGaps : Nat → Scan → Scan
  | 0, s => s
  | steps + 1, s =>
    let c := s.cursor
    let c := if c.column = 0 && c.sees '\ufeff' then c.next else c
    let c := (c.takeWhile fun ch => ch = ' ' || ((0 < s.flow || !s.keyAllowed) && ch = '\t')).2
    let c := if c.sees '#' then c.toLineEnd else c
    if c.has 0 isBreak then
      skipGaps steps { s with cursor := c.nextLine, keyAllowed := s.keyAllowed || s.flow = 0 }
    else { s with cursor := c }

-- Ends all blocks before a directive or the mark of a document.
def atMargin (s : Scan) : Option Scan := do
  let s ← (s.closeTo (-1)).dropKey
  some { s with keyAllowed := false }

def openFlow (s : Scan) (t : Token) : Option Scan := do
  let s ← s.noteKey
  some { s.pushPast t 1 with flow := s.flow + 1, keys := none :: s.keys, keyAllowed := true }

def closeFlow (s : Scan) (t : Token) : Option Scan := do
  let s ← s.dropKey
  let s := if s.flow = 0 then s else { s with flow := s.flow - 1, keys := s.keys.drop 1 }
  some { s.pushPast t 1 with keyAllowed := false }

def flowEntry (s : Scan) : Option Scan := do
  let s ← s.dropKey
  some { s.pushPast .flowEntry 1 with keyAllowed := true }

def blockEntry (s : Scan) : Option Scan :=
  if s.flow = 0 && !s.keyAllowed then none
  else do
    let s ← (s.openBlock s.cursor.column s.tokens.size .blockSequenceStart).dropKey
    some { s.pushPast .blockEntry 1 with keyAllowed := true }

def key (s : Scan) : Option Scan :=
  if s.flow = 0 && !s.keyAllowed then none
  else do
    let s ← (s.openBlock s.cursor.column s.tokens.size .blockMappingStart).dropKey
    some { s.pushPast .key 1 with keyAllowed := s.flow = 0 }

def value (s : Scan) : Option Scan :=
  match s.currentKey with
  | some k =>
    let s := { s with tokens := s.tokens.insertIdxIfInBounds (min k.before s.tokens.size) .key }
    let s := (s.openBlock k.column k.before .blockMappingStart).setKey none
    some { s.pushPast .value 1 with keyAllowed := false }
  | none =>
    if s.flow = 0 && !s.keyAllowed then none
    else
      let s := s.openBlock s.cursor.column s.tokens.size .blockMappingStart
      some { s.pushPast .value 1 with keyAllowed := s.flow = 0 }

def property (s : Scan) (read : Cursor → Option (Token × Cursor)) : Option Scan := do
  let s ← s.noteKey
  let (t, cursor) ← read s.cursor
  some { s.push t with cursor, keyAllowed := false }

def blockScalar (s : Scan) (literal : Bool) : Option Scan := do
  let s ← s.dropKey
  let (text, cursor) ← readBlock literal s.indent s.cursor.next
  some { s.push (.scalar ⟨String.ofList text, false⟩) with cursor, keyAllowed := true }

def quotedScalar (s : Scan) (quote : Char) : Option Scan := do
  let s ← s.noteKey
  let (text, cursor) ← readQuoted quote s.cursor.steps [] s.cursor.next
  some { s.push (.scalar ⟨String.ofList text, false⟩) with cursor, keyAllowed := false }

def plainScalar (s : Scan) : Option Scan := do
  let s ← s.noteKey
  let c := s.cursor
  let (text, broken, cursor) ← readPlain (0 < s.flow) (s.indent + 1).toNat c.steps [] {} c
  some { s.push (.scalar ⟨String.ofList text, true⟩) with cursor, keyAllowed := broken }

def startsPlain (s : Scan) : Bool :=
  let c := s.cursor
  (!c.gapAt 0 && !c.has 0 ("-?:,[]\x7b\x7d#&*!|>\'\"%@\x60".toList.contains ·)) ||
    (c.sees '-' && !c.has 1 isBlank) ||
    (s.flow = 0 && (c.sees '?' || c.sees ':') && !c.gapAt 1)

def token (s : Scan) : Option Scan :=
  let c := s.cursor
  let inFlow : Bool := 0 < s.flow
  if c.column = 0 && c.sees '%' then do
    let s ← s.atMargin
    let (d, cursor) ← readDirective s.cursor
    some { s.push (.directive d) with cursor }
  else if c.atMark '-' then (s.atMargin).map (·.pushPast .documentStart 3)
  else if c.atMark '.' then (s.atMargin).map (·.pushPast .documentEnd 3)
  else if c.sees '[' then s.openFlow .flowSequenceStart
  else if c.sees '\x7b' then s.openFlow .flowMappingStart
  else if c.sees ']' then s.closeFlow .flowSequenceEnd
  else if c.sees '\x7d' then s.closeFlow .flowMappingEnd
  else if c.sees ',' then s.flowEntry
  else if c.sees '-' && c.gapAt 1 then s.blockEntry
  else if c.sees '?' && (inFlow || c.gapAt 1) then s.key
  else if c.sees ':' && (inFlow || c.gapAt 1) then s.value
  else if c.sees '*' then s.property fun c => (readAnchor c.next).map fun (n, c) => (.alias n, c)
  else if c.sees '&' then s.property fun c => (readAnchor c.next).map fun (n, c) => (.anchor n, c)
  else if c.sees '!' then s.property fun c => (readTag inFlow c).map fun (t, c) => (.tag t, c)
  else if c.sees '|' && !inFlow then s.blockScalar true
  else if c.sees '>' && !inFlow then s.blockScalar false
  else if c.sees '\'' then s.quotedScalar '\''
  else if c.sees '"' then s.quotedScalar '"'
  else if s.startsPlain then s.plainScalar
  else none

def run : Nat → Scan → Option (List Token)
  | 0, _ => none
  | steps + 1, s => do
    let s ← (s.skipGaps s.cursor.steps).dropOldKeys
    let s := s.closeTo s.cursor.column
    if s.cursor.atEnd then do
      let s ← (s.closeTo (-1)).dropKey
      some s.tokens.toList
    else
      let s ← s.token
      run steps s

end Scan

-- The tokens of a text, unless it is malformed.
def tokens? (text : String) : Option (List Token) :=
  if text.toList.all isAllowed then
    let start : Cursor := { rest := text.toList }
    Scan.run (2 * start.steps) { cursor := start }
  else none

end TreeAudit.Yaml
