-- Double precision numbers taken apart into integers. A finite number is `mantissa * 2 ^ exponent`
-- with a sign; on that form integrality, comparison of magnitudes and the remainder of a division
-- are questions about natural numbers.
namespace TreeAudit.Decimal

inductive Binary64
  | nan
  | infinite (negative : Bool)
  | finite (negative : Bool) (mantissa : Nat) (exponent : Int)
deriving Repr, DecidableEq

-- Sign, eleven bits of exponent and fifty-two of fraction; the smallest exponent has no hidden
-- bit and the largest one is not a number or infinite.
def Binary64.ofFloat (x : Float) : Binary64 :=
  let bits := x.toBits.toNat
  let negative := bits ≥ Nat.pow 2 63
  let exponent : Nat := bits / Nat.pow 2 52 % Nat.pow 2 11
  let fraction := bits % Nat.pow 2 52
  if exponent = 2047 then if fraction = 0 then .infinite negative else .nan
  else if exponent = 0 then .finite negative fraction (-1074)
  else .finite negative (fraction + Nat.pow 2 52) ((exponent : Int) - 1075)

def ofMagnitude (negative : Bool) (mantissa : Nat) (exponent : Int) : Float :=
  let sign := if negative then Nat.pow 2 63 else 0
  if mantissa = 0 then Float.ofBits (UInt64.ofNat sign)
  else
    let width := mantissa.log2 + 1
    let (mantissa, exponent) :=
      if width > 53 then (mantissa >>> (width - 53), exponent + (width - 53 : Nat))
      else
        let up := min (53 - width) (exponent + 1074).toNat
        (mantissa <<< up, exponent - up)
    let bits :=
      if mantissa < Nat.pow 2 52 then mantissa
      else (exponent + 1075).toNat * Nat.pow 2 52 + (mantissa - Nat.pow 2 52)
    Float.ofBits (UInt64.ofNat (sign + bits))

def isWhole (x : Float) : Bool :=
  match Binary64.ofFloat x with
  | .finite _ m q => 0 ≤ q || m % Nat.pow 2 (-q).toNat = 0
  | _ => false

def truncate (x : Float) : Int :=
  match Binary64.ofFloat x with
  | .finite negative m q =>
    let size : Nat := if 0 ≤ q then m * Nat.pow 2 q.toNat else m / Nat.pow 2 (-q).toNat
    if negative then -size else size
  | _ => 0

-- The remainder of a division that is rounded toward zero: it has the sign of the dividend and is
-- exact.
def remainder (x y : Float) : Float :=
  match Binary64.ofFloat x, Binary64.ofFloat y with
  | .finite negative mx qx, .finite _ my qy =>
    if my = 0 then 0.0 / 0.0
    else
      let q := min qx qy
      let r := mx * Nat.pow 2 (qx - q).toNat % (my * Nat.pow 2 (qy - q).toNat)
      ofMagnitude negative r q
  | .finite .., .infinite _ => x
  | _, _ => 0.0 / 0.0

end TreeAudit.Decimal
