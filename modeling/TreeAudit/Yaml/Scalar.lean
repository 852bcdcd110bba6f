import TreeAudit.Yaml.Cursor

-- The written forms of scalars: plain, in quotes, and as blocks of lines. In flowing text a single line
-- end is read as a blank, and of several the first is dropped. Functions that read go on from a cursor
-- and give what was read with the place after it, or nothing if the text is malformed; their first
-- argument bounds the steps.
namespace TreeAudit.Yaml

structure Gap where
  broken : Bool := false
  blanks : List Char := []
  first : List Char := []
  more : List Char := []

def Gap.text (g : Gap) : List Char :=
  if !g.broken then g.blanks
  else if g.first = ['\n'] then (if g.more.isEmpty then [' '] else g.more)
  else g.first ++ g.more

-- Reads blanks and line ends. At the start of a line no tab may stand before column `indent`.
def readGap (indent : Nat) : Nat → Gap → Cursor → Option (Gap × Cursor)
  | 0, g, c => some (g, c)
  | steps + 1, g, c =>
    if c.has 0 isBlank then
      if g.broken && c.column < indent && c.sees '\t' then none
      else
        let g := if g.broken then g else { g with blanks := g.blanks ++ c.peek.toList }
        readGap indent steps g c.next
    else if c.has 0 isBreak then
      let g :=
        if g.broken then { g with more := g.more ++ c.lineEnd }
        else { g with broken := true, first := c.lineEnd }
      readGap indent steps g c.nextLine
    else some (g, c)

structure Scalar where
  text : String
  plain : Bool
deriving Repr, DecidableEq

-- Reads on in a plain scalar, of which `text` is the part before, last character first. Answers
-- also whether it ended after a line end.
def readPlain (inFlow : Bool) (indent : Nat) :
    Nat → List Char → Gap → Cursor → Option (List Char × Bool × Cursor)
  | 0, _, _, _ => none
  | steps + 1, text, g, c =>
    let done := some (text.reverse, g.broken, c)
    let inGap := g.broken || !g.blanks.isEmpty
    match c.peek with
    | none => done
    | some ch =>
      if c.atDocumentMark || (inGap && ch = '#') then done
      else if isBlank ch || isBreak ch then
        match readGap indent c.steps {} c with
        | none => none
        | some (g, c) =>
          if !inFlow && c.column < indent then some (text.reverse, g.broken, c)
          else readPlain inFlow indent steps text g c
      else if inFlow && ch = ':' && c.has 1 (",?[]\x7b\x7d".toList.contains ·) then none
      else if (ch = ':' && c.gapAt 1) || (inFlow && ",[]\x7b\x7d".toList.contains ch) then done
      else readPlain inFlow indent steps (ch :: g.text.reverse ++ text) {} c.next

def hexDigit? (c : Char) : Option Nat :=
  if c.isDigit then some (c.toNat - '0'.toNat)
  else if 'a' ≤ c ∧ c ≤ 'f' then some (c.toNat - 'a'.toNat + 10)
  else if 'A' ≤ c ∧ c ≤ 'F' then some (c.toNat - 'A'.toNat + 10)
  else none

def hexValue? (cs : List Char) : Option Nat :=
  cs.foldlM (fun n c => (hexDigit? c).map (n * 16 + ·)) 0

def namedEscape? : Char → Option Char
  | '0' => some '\x00'
  | 'a' => some '\x07'
  | 'b' => some '\x08'
  | 't' => some '\t'
  | '\t' => some '\t'
  | 'n' => some '\n'
  | 'v' => some '\x0b'
  | 'f' => some '\x0c'
  | 'r' => some '\r'
  | 'e' => some '\x1b'
  | ' ' => some ' '
  | '"' => some '"'
  | '/' => some '/'
  | '\\' => some '\\'
  | 'N' => some '\u0085'
  | '_' => some '\u00a0'
  | 'L' => some '\u2028'
  | 'P' => some '\u2029'
  | _ => none

def readEscape (c : Cursor) : Option (Char × Cursor) := do
  let ch ← c.peek
  let numbered (digits : Nat) : Option (Char × Cursor) := do
    let written := (c.next.rest.take digits)
    let n ← if written.length = digits then hexValue? written else none
    if n.isValidChar then some (Char.ofNat n, c.next.advance digits) else none
  match ch with
  | 'x' => numbered 2
  | 'u' => numbered 4
  | 'U' => numbered 8
  | _ => (namedEscape? ch).map (·, c.next)

-- Reads on in a scalar between quotes, up to the closing one. Within single quotes only a doubled
-- quote is special; within double quotes a backslash is.
def readQuoted (quote : Char) : Nat → List Char → Cursor → Option (List Char × Cursor)
  | 0, _, _ => none
  | steps + 1, text, c =>
    let gap (g : Gap) (c : Cursor) := do
      let (g, c) ← readGap 0 c.steps g c
      readQuoted quote steps (g.text.reverse ++ text) c
    match c.peek with
    | none => none
    | some ch =>
      if c.atDocumentMark then none
      else if ch = quote then
        if quote = '\'' && c.has 1 (· = '\'') then readQuoted quote steps (ch :: text) (c.advance 2)
        else some (text.reverse, c.next)
      else if quote = '"' && ch = '\\' then
        if c.has 1 isBreak then gap { broken := true } c.next.nextLine
        else do
          let (escaped, c) ← readEscape c.next
          readQuoted quote steps (escaped :: text) c
      else if isBlank ch || isBreak ch then gap {} c
      else readQuoted quote steps (ch :: text) c.next

inductive Chomping
  | strip
  | clip
  | keep
deriving Repr, DecidableEq

def Chomping.ofChar? : Char → Option Chomping
  | '-' => some .strip
  | '+' => some .keep
  | _ => none

-- Reads an indentation indicator, a digit but zero.
def readIndicator (c : Cursor) : Option (Nat × Cursor) :=
  match c.peek with
  | some ch =>
    if ch.isDigit then (if ch = '0' then none else some (ch.toNat - '0'.toNat, c.next))
    else some (0, c)
  | none => some (0, c)

def readChomping (c : Cursor) : Option Chomping × Cursor :=
  match c.peek.bind Chomping.ofChar? with
  | some chomping => (some chomping, c.next)
  | none => (none, c)

def readBlockHeader (c : Cursor) : Option (Chomping × Nat × Cursor) := do
  let (before, c) := readChomping c
  let (indent, c) ← readIndicator c
  let (after, c) := if before.isNone && 0 < indent then readChomping c else (none, c)
  let c := c.skipBlanks
  let c := if c.sees '#' then c.toLineEnd else c
  if c.atEnd then some ((before.or after).getD .clip, indent, c)
  else if c.has 0 isBreak then some ((before.or after).getD .clip, indent, c.nextLine)
  else none

-- Reads empty lines in a block and the indentation of the next line. While the indentation is
-- unknown, which is zero, all blanks belong to it; the deepest is answered.
def readEmptyLines (indent : Nat) : Nat → Nat → List Char → Cursor → Option (Nat × List Char × Cursor)
  | 0, deepest, breaks, c => some (deepest, breaks, c)
  | steps + 1, deepest, breaks, c =>
    let blanks := (c.rest.takeWhile (· = ' ')).length
    let c := c.advance (if indent = 0 then blanks else min blanks (indent - c.column))
    let deepest := max deepest c.column
    if (indent = 0 || c.column < indent) && c.sees '\t' then none
    else if c.has 0 isBreak then
      readEmptyLines indent steps deepest (breaks ++ c.lineEnd) c.nextLine
    else some (deepest, breaks, c)

-- The lines of a block read so far: their text, the line end after the last, the empty lines after
-- that, and whether the last line started with a blank.
structure BlockText where
  text : List Char := []
  lineEnd : List Char := []
  empty : List Char := []
  blankStart : Bool := false

-- The text with what stands between the last line and the next. Folding joins two lines that do not
-- start with a blank.
def BlockText.joined (b : BlockText) (literal blankStart : Bool) : List Char :=
  if !literal && b.lineEnd = ['\n'] && !b.blankStart && !blankStart then
    b.text ++ (if b.empty.isEmpty then [' '] else []) ++ b.empty
  else b.text ++ b.lineEnd ++ b.empty

def readLines (literal : Bool) (indent : Nat) : Nat → BlockText → Cursor →
    Option (BlockText × Cursor)
  | 0, b, c => some (b, c)
  | steps + 1, b, c =>
    if c.column = indent && !c.atEnd then do
      let blankStart := c.has 0 isBlank
      let (line, c) := c.takeWhile fun ch => !isBreak ch
      let lineEnd := c.lineEnd
      let (_, empty, c) ← readEmptyLines indent c.steps 0 [] c.nextLine
      readLines literal indent steps ⟨b.joined literal blankStart ++ line, lineEnd, empty, blankStart⟩ c
    else some (b, c)

def readBlock (literal : Bool) (outer : Int) (c : Cursor) : Option (List Char × Cursor) := do
  let (chomping, indicated, c) ← readBlockHeader c
  let given := if indicated = 0 then 0 else (max outer 0).toNat + indicated
  let (deepest, empty, c) ← readEmptyLines given c.steps 0 [] c
  let indent := if given = 0 then max deepest (max (outer + 1).toNat 1) else given
  let (b, c) ← readLines literal indent c.steps { empty } c
  let tail := match chomping with
    | .strip => []
    | .clip => b.lineEnd
    | .keep => b.lineEnd ++ b.empty
  some (b.text ++ tail, c)

end TreeAudit.Yaml
