-- Tables of code points. A table is a list of ranges with both ends included; a character is in the
-- table when one of the ranges holds it.
namespace TreeAudit.Unicode

def inRanges (table : List (Nat × Nat)) (c : Char) : Bool :=
  table.any fun (first, last) => first ≤ c.toNat && c.toNat ≤ last

end TreeAudit.Unicode
