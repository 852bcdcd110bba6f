import TreeAudit.Yaml.Scalar

-- Tags, anchors and directives. A tag is written with a handle and a suffix; the handle stands for what
-- a directive says it does.
namespace TreeAudit.Yaml

structure WrittenTag where
  handle : String
  suffix : String
deriving Repr, DecidableEq

inductive Directive
  | version (major minor : Nat)
  | handle (handle tagStart : String)
deriving Repr, DecidableEq

def isAddressPart (c : Char) : Bool := isNamePart c || ";/?:@&=+$.%!~*'()".toList.contains c

def encodedLength? (byte : Nat) : Option Nat :=
  if byte < 0x80 then some 1
  else if 0xC0 ≤ byte ∧ byte < 0xE0 then some 2
  else if 0xE0 ≤ byte ∧ byte < 0xF0 then some 3
  else if 0xF0 ≤ byte ∧ byte < 0xF8 then some 4
  else none

def readByte (c : Cursor) : Option (Nat × Cursor) :=
  match c.rest with
  | '%' :: high :: low :: _ => do
    let n ← hexValue? [high, low]
    some (n, c.advance 3)
  | _ => none

def readMoreBytes : Nat → Nat → Cursor → Option (Nat × Cursor)
  | 0, value, c => some (value, c)
  | n + 1, value, c => do
    let (byte, c) ← readByte c
    if byte / 64 = 2 then readMoreBytes n (value * 64 + byte % 64) c else none

def readEncoded (c : Cursor) : Option (Char × Cursor) := do
  let (byte, c) ← readByte c
  let length ← encodedLength? byte
  let start := if length = 1 then byte else byte % Nat.pow 2 (7 - length)
  let (value, c) ← readMoreBytes (length - 1) start c
  some (Char.ofNat value, c)

-- Reads an address; brackets and commas belong to it only where `brackets` says so.
def readAddress (brackets : Bool) : Nat → List Char → Cursor → Option (List Char × Cursor)
  | 0, read, c => some (read.reverse, c)
  | steps + 1, read, c =>
    match c.peek with
    | none => some (read.reverse, c)
    | some ch =>
      if ch = '%' then do
        let (ch, c) ← readEncoded c
        readAddress brackets steps (ch :: read) c
      else if isAddressPart ch || (brackets && ",[]".toList.contains ch) then
        readAddress brackets steps (ch :: read) c.next
      else some (read.reverse, c)

def readHandle (c : Cursor) : Option (List Char × Cursor) :=
  if c.sees '!' then
    let (name, c) := c.next.takeWhile isNamePart
    if c.sees '!' then some ('!' :: name ++ ['!'], c.next) else some ('!' :: name, c)
  else none

def isClosedHandle (handle : List Char) : Bool := 1 < handle.length && handle.getLast? = some '!'

def readTag (inFlow : Bool) (c : Cursor) : Option (WrittenTag × Cursor) := do
  let (tag, c) ←
    if c.has 1 (· = '<') then do
      let (address, c) ← readAddress true c.steps [] (c.advance 2)
      if !address.isEmpty && c.sees '>' then
        some ((⟨"", String.ofList address⟩ : WrittenTag), c.next)
      else none
    else do
      let (handle, c) ← readHandle c
      let (address, c) ← readAddress false c.steps [] c
      if isClosedHandle handle then
        if address.isEmpty then none
        else some ((⟨String.ofList handle, String.ofList address⟩ : WrittenTag), c)
      else
        let suffix := handle.drop 1 ++ address
        some ((if suffix.isEmpty then ⟨"", "!"⟩ else ⟨"!", String.ofList suffix⟩ : WrittenTag), c)
  if c.gapAt 0 || (inFlow && c.sees ',') then some (tag, c) else none

def readAnchor (c : Cursor) : Option (String × Cursor) :=
  let (name, c) := c.takeWhile isNamePart
  if !name.isEmpty && (c.gapAt 0 || c.has 0 ("?:,]\x7d%@".toList.contains ·) || c.sees '\x60') then
    some (String.ofList name, c)
  else none

def readNumber (c : Cursor) : Option (Nat × Cursor) :=
  let (digits, c) := c.takeWhile Char.isDigit
  if digits.isEmpty || 9 < digits.length then none
  else some (digits.foldl (fun n d => n * 10 + (d.toNat - '0'.toNat)) 0, c)

def readDirective (c : Cursor) : Option (Directive × Cursor) := do
  let (name, c) := c.next.takeWhile isNamePart
  if name.isEmpty || !c.gapAt 0 then none
  else
    let c := c.skipBlanks
    let (directive, c) ←
      if name = "YAML".toList then do
        let (major, c) ← readNumber c
        if !c.sees '.' then none
        else
          let (minor, c) ← readNumber c.next
          some (Directive.version major minor, c)
      else if name = "TAG".toList then do
        let (handle, c) ← readHandle c
        if handle ≠ ['!'] && !isClosedHandle handle then none
        else if !c.has 0 isBlank then none
        else
          let c := c.skipBlanks
          let (address, c) ← readAddress true c.steps [] c
          if address.isEmpty || !c.gapAt 0 then none
          else some (Directive.handle (String.ofList handle) (String.ofList address), c)
      else none
    let c := c.skipBlanks
    let c := if c.sees '#' then c.toLineEnd else c
    if c.atEnd then some (directive, c)
    else if c.has 0 isBreak then some (directive, c.nextLine)
    else none

end TreeAudit.Yaml
