import TreeAudit.Decimal.Shortest
import TreeAudit.Unicode.CaseMap
import TreeAudit.Unicode.Alphabet

-- Written forms of numbers. `Style` says how a number is written from its shortest digits: up to
-- which point positionally, and what stands for a whole number's fraction, for an exponent and for
-- the numbers without digits. `read?` reads a decimal number.
namespace TreeAudit.Decimal

-- The choices of a written form. `leastPoint` and `greatestPoint` bound the position of the
-- decimal point up to which no exponent is written.
structure Style where
  tie : Tie
  leastPoint : Int
  greatestPoint : Int
  wholeSuffix : String
  nan : String
  infinity : String

def positional : Style := ⟨.larger, -1000, 1000, "", "NaN", "inf"⟩

-- Sixteen places before the point and five zeros after it, a fraction for whole numbers, and an
-- exponent beyond.
def scientific : Style := ⟨.even, -4, 16, ".0", ".nan", ".inf"⟩

def Style.unsigned (n : Style) (d : Digits) : String :=
  let digits := d.text
  let count := digits.length
  if n.leastPoint ≤ d.point ∧ d.point ≤ 0 then
    String.ofList ("0.".toList ++ List.replicate (-d.point).toNat '0' ++ digits)
  else if 0 < d.point ∧ d.point ≤ n.greatestPoint then
    let places := d.point.toNat
    if count ≤ places then
      String.ofList (digits ++ List.replicate (places - count) '0') ++ n.wholeSuffix
    else String.ofList (digits.take places ++ '.' :: digits.drop places)
  else
    let exponent := toString (d.point - 1)
    match digits with
    | [first] => String.ofList [first] ++ "e" ++ exponent
    | first :: rest => String.ofList (first :: '.' :: rest) ++ "e" ++ exponent
    | [] => exponent

def Style.text (n : Style) (x : Float) : String :=
  match Binary64.ofFloat x with
  | .nan => n.nan
  | .infinite negative => if negative then "-" ++ n.infinity else n.infinity
  | .finite negative mantissa exponent =>
    let size :=
      if mantissa = 0 then "0" ++ n.wholeSuffix else n.unsigned (shortest n.tie mantissa exponent)
    if negative then "-" ++ size else size

-- A number as values are shown: whole numbers below 10¹⁵ as integers, and so zero without a sign;
-- all others by their shortest digits without an exponent.
def format (x : Float) : String :=
  if isWhole x && x.abs < 1e15 then toString (truncate x) else positional.text x

def digitsValue (cs : List Char) : Nat :=
  cs.foldl (fun n c => n * 10 + (c.toNat - '0'.toNat)) 0

-- `mantissa * 10 ^ exponent`, rounded to the nearest double. Numbers far beyond the range are
-- settled before any power is formed.
def scale (negative : Bool) (digitCount mantissa : Nat) (exponent : Int) : Float :=
  let size : Float :=
    if mantissa = 0 then 0
    else if exponent + digitCount > 400 then 1.0 / 0.0
    else if exponent + digitCount < -400 then 0
    else if 0 ≤ exponent then Float.ofScientific mantissa false exponent.toNat
    else Float.ofScientific mantissa true (-exponent).toNat
  if negative then -size else size

def readExponent? : List Char → Option Int
  | [] => some 0
  | e :: rest =>
    if e = 'e' ∨ e = 'E' then
      let (negative, digits) := match rest with
        | '-' :: ds => (true, ds)
        | '+' :: ds => (false, ds)
        | ds => (false, ds)
      if digits.isEmpty || !digits.all Char.isDigit then none
      else
        let size : Int := digitsValue digits
        some (if negative then -size else size)
    else none

-- A number without a sign: digits with a point or none among them, and an exponent or none.
def readUnsigned? (negative : Bool) (cs : List Char) : Option Float :=
  let whole := cs.takeWhile Char.isDigit
  let rest := cs.dropWhile Char.isDigit
  let (fraction, rest) := match rest with
    | '.' :: r => (r.takeWhile Char.isDigit, r.dropWhile Char.isDigit)
    | r => ([], r)
  if whole.isEmpty && fraction.isEmpty then none
  else do
    let exponent ← readExponent? rest
    let digits := (whole ++ fraction).dropWhile (· = '0')
    some (scale negative digits.length (digitsValue digits) (exponent - fraction.length))

def read? (s : String) : Option Float :=
  let (negative, body) := match s.toList with
    | '-' :: cs => (true, cs)
    | '+' :: cs => (false, cs)
    | cs => (false, cs)
  let word := body.map Char.toLower
  if word = "inf".toList ∨ word = "infinity".toList then
    some (if negative then -(1.0 / 0.0) else 1.0 / 0.0)
  else if word = "nan".toList then some (0.0 / 0.0)
  else readUnsigned? negative body

-- The number that a text stands for, blanks at its ends aside; a text that is no number gives the
-- value that is not a number.
def ofText (s : String) : Float := (read? (Unicode.trim s)).getD (0.0 / 0.0)

end TreeAudit.Decimal
