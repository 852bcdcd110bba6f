import TreeAudit.Unicode.Alphabet
import TreeAudit.Unicode.Category
import TreeAudit.Unicode.Extender

-- Texts written so that they stay on one line. `escapeControl` writes every control character and the
-- backslash by an escape and can be undone; `quoted` puts a text in quotes and escapes whatever does
-- not show on its own.
namespace TreeAudit.Text

def hex (n : Nat) : List Char := Nat.toDigits 16 n

def numberEscape (c : Char) : List Char := ['\\', 'u', '\x7b'] ++ hex c.toNat ++ ['\x7d']

-- One character of a line: the usual escapes for line ends and tabs, a doubled backslash, and the
-- number of any other control character.
def escapeChar (c : Char) : List Char :=
  if c = '\r' then ['\\', 'r']
  else if c = '\n' then ['\\', 'n']
  else if c = '\t' then ['\\', 't']
  else if c = '\\' then ['\\', '\\']
  else if Unicode.isControl c then numberEscape c
  else [c]

-- A text without control characters.
def escapeControl (s : String) : String := String.ofList (s.toList.flatMap escapeChar)

-- A character that shows on its own: neither a control, format or private use character nor a
-- separator other than the space, and assigned.
def isVisible (c : Char) : Bool :=
  c = ' ' ||
    open Unicode.Category in
    [luRanges, llRanges, ltRanges, lmRanges, loRanges, mnRanges, mcRanges, meRanges, ndRanges,
      nlRanges, noRanges, pcRanges, pdRanges, psRanges, peRanges, piRanges, pfRanges, poRanges,
      smRanges, scRanges, skRanges, soRanges].any fun table => Unicode.inRanges table c

def quoteChar (c : Char) : List Char :=
  if c = '\x00' then ['\\', '0']
  else if c = '\t' then ['\\', 't']
  else if c = '\r' then ['\\', 'r']
  else if c = '\n' then ['\\', 'n']
  else if c = '"' then ['\\', '"']
  else if c = '\\' then ['\\', '\\']
  else if c.toNat < 0x7F ∧ 0x20 ≤ c.toNat then [c]
  else if Unicode.isExtender c || !isVisible c then numberEscape c
  else [c]

def quoted (s : String) : String :=
  String.ofList ('"' :: s.toList.flatMap quoteChar ++ ['"'])

-- The name of a file in double quotes; single quotes are escaped as well.
def quotedPath (s : String) : String :=
  String.ofList ('"' :: s.toList.flatMap (fun c => if c = '\'' then ['\\', '\''] else quoteChar c)
    ++ ['"'])

end TreeAudit.Text
