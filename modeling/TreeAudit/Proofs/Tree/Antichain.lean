import Mathlib
import TreeAudit.Proofs.Tree.Shape

-- Nodes of which none is above another. No node stands at or below two of them, so what is counted at and below
-- each of them adds up.
namespace TreeAudit.Tree
variable {t : Tree} {b d m n : Nat} {ms : Set Nat} {own : Nat → Set Nat}

theorem antichain_unique (apart : IsAntichain t.Above ms) (first : m ∈ ms) (second : n ∈ ms)
    (one : t.AtOrAbove m d) (two : t.AtOrAbove n d) : m = n := by
  by_contra different
  rcases comparable one two with upper | lower
  · exact apart first second different (upper.above different)
  · exact apart second first (Ne.symm different) (lower.above (Ne.symm different))

theorem children_antichain (shape : t.Preordered) (b : Nat) : IsAntichain t.Above { m | t.IsParent b m } := by
  intro m first n second _ above
  have outer := AtOrAbove.le shape ((above_iff second).mp above)
  have inner := shape.parent_lt first
  omega

theorem antichain_disjoint (apart : IsAntichain t.Above ms) (below : ∀ m ∈ ms, ∀ d ∈ own m, t.AtOrAbove m d) :
    ms.PairwiseDisjoint own := by
  intro m first n second different
  apply Set.disjoint_left.mpr
  intro d one two
  exact different (antichain_unique apart first second (below m first d one) (below n second d two))

theorem antichain_ncard (finite : ms.Finite) (each : ∀ m ∈ ms, (own m).Finite) (apart : IsAntichain t.Above ms)
    (below : ∀ m ∈ ms, ∀ d ∈ own m, t.AtOrAbove m d) : (⋃ m ∈ ms, own m).ncard = ∑ᶠ m ∈ ms, (own m).ncard :=
  finite.ncard_biUnion each (antichain_disjoint apart below)

end TreeAudit.Tree
