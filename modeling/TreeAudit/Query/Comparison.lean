import TreeAudit.Query.Value

-- Comparison of values. Two values compare if any item of the one compares with any item of the other.
-- Truth values are compared as such, numbers as numbers; two texts are compared by their characters,
-- except that for order two texts that spell numbers are compared as numbers.
namespace TreeAudit.Query

inductive Comparison
  | equal
  | notEqual
  | less
  | lessEqual
  | greater
  | greaterEqual
deriving Repr, DecidableEq

-- How two numbers stand to each other; a value that is not a number stands to none.
def orderNumbers (x y : Float) : Option Ordering :=
  match decide (x ≤ y), decide (y ≤ x) with
  | true, true => some .eq
  | true, false => some .lt
  | false, true => some .gt
  | false, false => none

def orderTexts (s t : String) : Ordering :=
  if s = t then .eq else if s < t then .lt else .gt

def orderTruth (a b : Bool) : Ordering :=
  match a, b with
  | false, true => .lt
  | true, false => .gt
  | _, _ => .eq

def Comparison.accepts (op : Comparison) : Option Ordering → Bool
  | none => op = .notEqual
  | some o =>
    match op with
    | .equal => o = .eq
    | .notEqual => o ≠ .eq
    | .less => o = .lt
    | .lessEqual => o ≠ .gt
    | .greater => o = .gt
    | .greaterEqual => o ≠ .lt

def orderAtoms (op : Comparison) (a b : Atom) : Option Ordering :=
  match a, b with
  | .truth _, _ | _, .truth _ => some (orderTruth a.truthy b.truthy)
  | .number _, _ | _, .number _ => orderNumbers a.toNumber b.toNumber
  | .text s, .text t =>
    if op = .equal ∨ op = .notEqual then some (orderTexts s t)
    else
      let (x, y) := (Decimal.ofText s, Decimal.ofText t)
      if x.isNaN || y.isNaN then some (orderTexts s t) else orderNumbers x y

def Comparison.holds (op : Comparison) (a b : Atom) : Bool := op.accepts (orderAtoms op a b)

def Comparison.compare (op : Comparison) (t : Tree) (l r : Value) : Bool :=
  l.any fun a => r.any fun b => op.holds (a.atomize t) (b.atomize t)

end TreeAudit.Query
