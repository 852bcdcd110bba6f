import TreeAudit.Decimal.Binary64

-- The shortest decimal numbers that read back. All reals that round to a double form an interval
-- around it; on the grids of one, two, three and more digits the first that has a point in the
-- interval gives the digits, and of two points the nearer one is taken.
namespace TreeAudit.Decimal

inductive Tie
  | larger
  | even
deriving Repr, DecidableEq

structure Digits where
  value : Nat
  point : Int
deriving Repr, DecidableEq

-- The interval of reals that round to `mantissa * 2 ^ exponent`, in quarters of the last place:
-- its lower end, the number, its upper end, and whether the ends belong to it.
structure Interval where
  low : Nat
  mid : Nat
  high : Nat
  closed : Bool

def Interval.around (mantissa : Nat) (exponent : Int) : Interval :=
  { low := if mantissa = Nat.pow 2 52 ∧ -1074 < exponent then 4 * mantissa - 1 else 4 * mantissa - 2
    mid := 4 * mantissa
    high := 4 * mantissa + 2
    closed := mantissa % 2 = 0 }

def Interval.holds (i : Interval) (numerator denominator : Nat) : Bool :=
  if i.closed then i.low * denominator ≤ numerator && numerator ≤ i.high * denominator
  else i.low * denominator < numerator && numerator < i.high * denominator

def decimalPoint (a b : Nat) : Nat → Int → Int
  | 0, k => k
  | fuel + 1, k =>
    let below := if 0 ≤ k then a < b * Nat.pow 10 k.toNat else a * Nat.pow 10 (-k).toNat < b
    if below then k else decimalPoint a b fuel (k + 1)

-- The point of the grid of `count` digits that stands for the interval's number, if one does.
-- The number is `mid * unitNum / unitDen`.
def Interval.onGrid? (i : Interval) (tie : Tie) (unitNum unitDen : Nat) (point : Int)
    (count : Nat) : Option Digits :=
  let place := point - count
  -- a grid point `d` is `d * 10 ^ place`, which is `d * gridNum / gridDen` quarter places
  let gridNum := (if 0 ≤ place then Nat.pow 10 place.toNat else 1) * unitDen
  let gridDen := (if 0 ≤ place then 1 else Nat.pow 10 (-place).toNat) * unitNum
  let below := i.mid * gridDen / gridNum
  let above := below + 1
  let hasBelow := 0 < below && i.holds (below * gridNum) gridDen
  let hasAbove := i.holds (above * gridNum) gridDen
  let toBelow := i.mid * gridDen - below * gridNum
  let toAbove := above * gridNum - i.mid * gridDen
  let takeBelow :=
    toBelow < toAbove || (toBelow = toAbove && tie = .even && below % 2 = 0)
  match hasBelow, hasAbove with
  | true, true => some ⟨if takeBelow then below else above, point⟩
  | true, false => some ⟨below, point⟩
  | false, true => some ⟨above, point⟩
  | false, false => none

-- Zeros at the end of the digits say nothing; a carry past the first digit moves the point.
def Digits.trim (d : Digits) (count : Nat) : Digits :=
  if d.value = Nat.pow 10 count then ⟨1, d.point + 1⟩ else d

-- The fewest digits that read back as `mantissa * 2 ^ exponent`, which is not zero.
def shortest (tie : Tie) (mantissa : Nat) (exponent : Int) : Digits :=
  let i := Interval.around mantissa exponent
  let quarter := exponent - 2
  let unitNum := if 0 ≤ quarter then Nat.pow 2 quarter.toNat else 1
  let unitDen := if 0 ≤ quarter then 1 else Nat.pow 2 (-quarter).toNat
  let point := decimalPoint (i.mid * unitNum) unitDen 650 (-330)
  let found := (List.range 17).findSome? fun k =>
    (i.onGrid? tie unitNum unitDen point (k + 1)).map fun d => d.trim (k + 1)
  found.getD ⟨0, 0⟩

def Digits.text (d : Digits) : List Char := Nat.toDigits 10 d.value

end TreeAudit.Decimal
