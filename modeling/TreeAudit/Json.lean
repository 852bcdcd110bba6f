import TreeAudit.Text.Escape

-- JSON values and how they are written: nested values on lines of their own, two blanks deeper each
-- time, the fields of an object in the order in which they stand.
namespace TreeAudit

inductive Json
  | null
  | boolean (b : Bool)
  | number (n : Nat)
  | string (s : String)
  | array (items : List Json)
  | object (fields : List (String × Json))
deriving Repr

namespace Json

-- One character of a string. Quotes, backslashes and control characters below the blank are
-- escaped, those with a letter of their own by that letter.
def escapeChar (c : Char) : List Char :=
  if c = '"' then ['\\', '"']
  else if c = '\\' then ['\\', '\\']
  else if c = '\n' then ['\\', 'n']
  else if c = '\r' then ['\\', 'r']
  else if c = '\t' then ['\\', 't']
  else if c = '\x08' then ['\\', 'b']
  else if c = '\x0c' then ['\\', 'f']
  else if c.toNat < 0x20 then
    ['\\', 'u', '0', '0', Nat.digitChar (c.toNat / 16), Nat.digitChar (c.toNat % 16)]
  else [c]

def quote (s : String) : String := String.ofList ('"' :: s.toList.flatMap escapeChar ++ ['"'])

def newline (level : Nat) : String := String.ofList ('\n' :: List.replicate (2 * level) ' ')

mutual

def write (level : Nat) : Json → String
  | null => "null"
  | boolean b => toString b
  | number n => toString n
  | string s => quote s
  | array [] => "[]"
  | array (v :: vs) =>
    "[" ++ newline (level + 1) ++ write (level + 1) v ++ writeItems level vs ++ newline level ++ "]"
  | object [] => "\x7b\x7d"
  | object ((key, v) :: fields) =>
    "\x7b" ++ newline (level + 1) ++ quote key ++ ": " ++ write (level + 1) v ++
      writeFields level fields ++ newline level ++ "\x7d"

def writeItems (level : Nat) : List Json → String
  | [] => ""
  | v :: vs => "," ++ newline (level + 1) ++ write (level + 1) v ++ writeItems level vs

def writeFields (level : Nat) : List (String × Json) → String
  | [] => ""
  | (key, v) :: fields =>
    "," ++ newline (level + 1) ++ quote key ++ ": " ++ write (level + 1) v ++
      writeFields level fields

end

def pretty (v : Json) : String := v.write 0

def field? (key : String) (v : Option Json) : List (String × Json) :=
  (v.map fun v => (key, v)).toList

end Json

end TreeAudit
