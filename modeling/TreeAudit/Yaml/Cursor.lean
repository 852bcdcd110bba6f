-- A place in a YAML text. Lines and columns count from zero. Besides the usual line ends, the next-line
-- character and the line and paragraph separators end a line.
namespace TreeAudit.Yaml

def isBreak (c : Char) : Bool :=
  c = '\n' || c = '\r' || c = '\u0085' || c = '\u2028' || c = '\u2029'

def isBlank (c : Char) : Bool := c = ' ' || c = '\t'

def isNamePart (c : Char) : Bool := c.isAlphanum || c = '_' || c = '-'

def isAllowed (c : Char) : Bool :=
  let n := c.toNat
  n = 0x09 || n = 0x0A || n = 0x0D || (0x20 ≤ n && n ≤ 0x7E) || n = 0x85 ||
    (0xA0 ≤ n && n ≤ 0xFFFD) || 0x10000 ≤ n

structure Cursor where
  rest : List Char
  index : Nat := 0
  line : Nat := 0
  column : Nat := 0
deriving Repr

namespace Cursor

def peek (c : Cursor) : Option Char := c.rest.head?

def atEnd (c : Cursor) : Bool := c.rest.isEmpty

-- Whether the character `n` places on satisfies a test; the end of the text does not.
def has (c : Cursor) (n : Nat) (test : Char → Bool) : Bool := c.rest[n]?.any test

def sees (c : Cursor) (ch : Char) : Bool := c.has 0 (· = ch)

def gapAt (c : Cursor) (n : Nat) : Bool := c.rest[n]?.all fun ch => isBlank ch || isBreak ch

def next (c : Cursor) : Cursor :=
  match c.rest with
  | [] => c
  | _ :: rest => ⟨rest, c.index + 1, c.line, c.column + 1⟩

def advance (c : Cursor) : Nat → Cursor
  | 0 => c
  | n + 1 => c.next.advance n

-- Goes past a line end; a return and a feed are one.
def nextLine (c : Cursor) : Cursor :=
  match c.rest with
  | '\r' :: '\n' :: rest => ⟨rest, c.index + 2, c.line + 1, 0⟩
  | _ :: rest => ⟨rest, c.index + 1, c.line + 1, 0⟩
  | [] => c

def lineEnd (c : Cursor) : List Char :=
  match c.rest with
  | [] => []
  | ch :: _ =>
    if ch = '\u2028' || ch = '\u2029' then [ch] else if isBreak ch then ['\n'] else []

def takeWhile (c : Cursor) (test : Char → Bool) : List Char × Cursor :=
  let taken := c.rest.takeWhile test
  (taken, c.advance taken.length)

def skipBlanks (c : Cursor) : Cursor := (c.takeWhile isBlank).2

def toLineEnd (c : Cursor) : Cursor := (c.takeWhile fun ch => !isBreak ch).2

def atMark (c : Cursor) (ch : Char) : Bool :=
  c.column = 0 && c.has 0 (· = ch) && c.has 1 (· = ch) && c.has 2 (· = ch) && c.gapAt 3

def atDocumentMark (c : Cursor) : Bool := c.atMark '-' || c.atMark '.'

def steps (c : Cursor) : Nat := c.rest.length + 1

end Cursor

end TreeAudit.Yaml
