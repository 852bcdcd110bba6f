import TreeAudit.Unicode.CaseFold

-- Sets of characters as ascending ranges of code points that neither meet nor touch. Union and
-- complement are formed on the ranges and give the other operations.
namespace TreeAudit.Pattern

abbrev CharSet := List (Nat × Nat)

namespace CharSet

def top : Nat := 0x10FFFF

def every : CharSet := [(0, top)]

def single (c : Char) : CharSet := [(c.toNat, c.toNat)]

def join : CharSet → CharSet
  | [] => []
  | r :: rs =>
    match join rs with
    | [] => [r]
    | s :: ss => if s.1 ≤ r.2 + 1 then (r.1, max r.2 s.2) :: ss else r :: s :: ss

def ofRanges (ranges : List (Nat × Nat)) : CharSet :=
  let sorted := ranges.mergeSort fun a b => a.1 ≤ b.1
  -- a range may reach past those after it, so each end is raised to the greatest so far
  let raised := sorted.foldl (fun (acc : List (Nat × Nat) × Nat) r =>
    let stop := max acc.2 r.2
    ((r.1, stop) :: acc.1, stop)) ([], 0)
  join raised.1.reverse

def union (a b : CharSet) : CharSet := ofRanges (a ++ b)

def gaps (start : Nat) : CharSet → CharSet
  | [] => if start ≤ top then [(start, top)] else []
  | (first, last) :: rs =>
    if start < first then (start, first - 1) :: gaps (last + 1) rs else gaps (last + 1) rs

def complement (a : CharSet) : CharSet := gaps 0 a

def inter (a b : CharSet) : CharSet := complement (union (complement a) (complement b))

def diff (a b : CharSet) : CharSet := inter a (complement b)

def symmDiff (a b : CharSet) : CharSet := diff (union a b) (inter a b)

def holds (a : CharSet) (n : Nat) : Bool := a.any fun (first, last) => first ≤ n && n ≤ last

def isAscii (a : CharSet) : Bool := a.all fun r => r.2 < 0x80

def foldPairs : List (Nat × Nat) :=
  Unicode.foldRuns.flatMap fun (first, last, stride, distance) =>
    (List.range ((last - first) / stride + 1)).map fun k =>
      let n := first + k * stride
      (n, (n + distance).toNat)

def ignoringCase (a : CharSet) : CharSet :=
  let targets := foldPairs.filterMap fun (source, target) =>
    if a.holds source || a.holds target then some target else none
  let sources := foldPairs.filterMap fun (source, target) =>
    if targets.contains target then some source else none
  ofRanges (a ++ (targets ++ sources).map fun n => (n, n))

def ignoringAsciiCase (a : CharSet) : CharSet :=
  let letters := (List.range 26).flatMap fun k =>
    if a.holds (0x41 + k) || a.holds (0x61 + k) then [(0x41 + k, 0x41 + k), (0x61 + k, 0x61 + k)]
    else []
  ofRanges (a ++ letters)

end CharSet

end TreeAudit.Pattern
