import TreeAudit.Yaml.Scalar
import TreeAudit.Yaml.Value

-- What plain scalars stand for. Words for nothing and for truth values come first, then whole numbers in
-- four bases, then decimal numbers; all else is text. Whole numbers take 64 bits; one that takes more,
-- up to 128, is refused.
namespace TreeAudit.Yaml

def isNull (s : String) : Bool := ["null", "Null", "NULL", "~"].contains s

def readTruth? (s : String) : Option Bool :=
  if ["true", "True", "TRUE"].contains s then some true
  else if ["false", "False", "FALSE"].contains s then some false
  else none

def digitValue? (base : Nat) (c : Char) : Option Nat :=
  (hexDigit? c).bind fun d => if d < base then some d else none

def digits? (base : Nat) (cs : List Char) : Option Nat :=
  if cs.isEmpty then none
  else cs.foldlM (fun n c => (digitValue? base c).map (n * base + ·)) 0

def isPaddedNumber (cs : List Char) : Bool :=
  match cs with
  | '-' :: '0' :: d :: ds => (d :: ds).all Char.isDigit
  | '+' :: '0' :: d :: ds => (d :: ds).all Char.isDigit
  | '0' :: d :: ds => (d :: ds).all Char.isDigit
  | _ => false

def dropPlus : List Char → List Char
  | '+' :: cs => cs
  | cs => cs

-- A whole number without a minus sign.
def unsigned? (cs : List Char) : Option Nat :=
  match dropPlus cs with
  | '0' :: 'x' :: ds => digits? 16 ds
  | '0' :: 'o' :: ds => digits? 8 ds
  | '0' :: 'b' :: ds => digits? 2 ds
  | ds => if isPaddedNumber cs then none else digits? 10 ds

def negated? : List Char → Option Nat
  | '-' :: '0' :: 'x' :: ds => digits? 16 ds
  | '-' :: '0' :: 'o' :: ds => digits? 8 ds
  | '-' :: '0' :: 'b' :: ds => digits? 2 ds
  | '-' :: ds => if isPaddedNumber ('-' :: ds) then none else digits? 10 ds
  | _ => none

inductive Whole
  | none
  | some (n : Int)
  | refused
deriving Repr, DecidableEq

def readWhole (s : String) : Whole :=
  let cs := s.toList
  match unsigned? cs with
  | some n => if n < Nat.pow 2 64 then .some n else if n < Nat.pow 2 128 then .refused else .none
  | none =>
    match negated? cs with
    | some n => if n ≤ Nat.pow 2 63 then .some (-n) else if n ≤ Nat.pow 2 127 then .refused else .none
    | none => .none

-- Reads a decimal number. Infinities and the value that is not a number have words of their own.
def readFloat? (s : String) : Option Float :=
  let unsigned := String.ofList (dropPlus s.toList)
  let doubleSign := s.startsWith "+" && (unsigned.startsWith "+" || unsigned.startsWith "-")
  if doubleSign then none
  else if [".inf", ".Inf", ".INF"].contains unsigned then some (1.0 / 0.0)
  else if ["-.inf", "-.Inf", "-.INF"].contains s then some (-(1.0 / 0.0))
  else if [".nan", ".NaN", ".NAN"].contains s then some (0.0 / 0.0)
  else (Decimal.read? unsigned).filter (·.isFinite)

-- What a plain scalar stands for; nothing if its number is refused.
def plainValue (s : String) : Option Value :=
  if s.isEmpty || isNull s then some .null
  else match readTruth? s with
    | some b => some (.boolean b)
    | none =>
      match readWhole s with
      | .some n => some (.number (.integer n))
      | .refused => none
      | .none =>
        if isPaddedNumber s.toList then some (.string s)
        else match readFloat? s with
          | some x => some (.number (.float x))
          | none => some (.string s)

def usualTag (name : String) : String := "tag:yaml.org,2002:" ++ name

def scalarValue (tag : Option String) (s : Scalar) : Option Value :=
  match tag with
  | none => if s.plain then plainValue s.text else some (.string s.text)
  | some t =>
    if t = usualTag "bool" then (readTruth? s.text).map .boolean
    else if t = usualTag "int" then
      match readWhole s.text with
      | .some n => some (.number (.integer n))
      | _ => none
    else if t = usualTag "float" then (readFloat? s.text).map fun x => .number (.float x)
    else if t = usualTag "null" then (if isNull s.text then some .null else none)
    else some (.string s.text)

end TreeAudit.Yaml
