import Mathlib.Logic.Relation
import TreeAudit.Tree.Walk

-- The shape of a finished tree, read off its parent links alone. Nodes stand in document order: the
-- parent of a node is the node just before it or lies above that one. From this one local condition
-- follows that each node heads an unbroken stretch of ids.
namespace TreeAudit.Tree
open Relation
variable {t : Tree} {a b c k m n p q : Nat}

def IsParent (t : Tree) (p c : Nat) : Prop := t.parent c = some p

def isChild (t : Tree) (p c : Nat) : Bool := t.parent c = some p

def Above (t : Tree) (a n : Nat) : Prop := TransGen t.IsParent a n

def AtOrAbove (t : Tree) (a n : Nat) : Prop := ReflTransGen t.IsParent a n

-- `listed` leaves no freedom to the children: they are all nodes with that parent, in order.
structure Preordered (t : Tree) : Prop where
  top : t.parent root = none
  linked : ∀ n : Nat, 0 < n → n < t.size → ∃ p : Nat, t.parent n = some p ∧ t.AtOrAbove p (n - 1)
  listed : ∀ p : Nat, p < t.size → t.children p = (List.range t.size).filter (t.isChild p)

structure WellFormed (t : Tree) : Prop extends Preordered t where
  rooted : 0 < t.size

@[simp] theorem isChild_iff : t.isChild p c = true ↔ t.IsParent p c := decide_eq_true_iff

theorem node_outside (outside : t.size ≤ n) : t.node n = default := by
  rw [node,Array.getD_eq_getD_getElem?,Array.getElem?_eq_none outside,Option.getD_none]

theorem parent_inside (linked : t.parent n = some p) : n < t.size := by
  apply Nat.lt_of_not_le
  intro outside
  rw [parent,node_outside outside] at linked
  cases linked

theorem parent_unique (one : t.IsParent p n) (two : t.IsParent q n) : p = q :=
  Option.some.inj (one.symm.trans two)

-- By strong induction on the child: the chain from the node before it only leads to smaller ids.
theorem Preordered.parent_lt (shape : t.Preordered) : t.parent n = some p → p < n := by
  induction n using Nat.strongRecOn generalizing p with
  | ind n ih =>
    intro link
    by_cases first : n = 0
    · subst first
      rw [← root,shape.top] at link
      cases link
    · obtain ⟨q,known,chain⟩ := shape.linked n (by omega) (parent_inside link)
      cases known.symm.trans link
      have down : ∀ k : Nat, k < n → ∀ a : Nat, t.AtOrAbove a k → a ≤ k := by
        intro k small a path
        induction path using ReflTransGen.head_induction_on with
        | refl => exact Nat.le_refl _
        | head step path bound =>
          have lower := ih _ (Nat.lt_of_le_of_lt bound small) step
          omega
      have bound := down (n - 1) (by omega) p chain
      omega

theorem Above.lt (shape : t.Preordered) (above : t.Above a n) : a < n := by
  induction above with
  | single step => exact shape.parent_lt step
  | tail path step ih => exact Nat.lt_trans ih (shape.parent_lt step)

theorem AtOrAbove.le (shape : t.Preordered) (chain : t.AtOrAbove a n) : a ≤ n := by
  rcases reflTransGen_iff_eq_or_transGen.mp chain with equal | above
  · exact Nat.le_of_eq equal.symm
  · exact Nat.le_of_lt (Above.lt shape above)

theorem Above.inside (above : t.Above a n) : n < t.size := by
  obtain ⟨_,_,step⟩ := TransGen.tail'_iff.mp above
  exact parent_inside step

theorem AtOrAbove.inside (chain : t.AtOrAbove a n) (known : a < t.size) : n < t.size := by
  rcases reflTransGen_iff_eq_or_transGen.mp chain with equal | above
  · exact equal ▸ known
  · exact Above.inside above

theorem AtOrAbove.above (chain : t.AtOrAbove a n) (different : a ≠ n) : t.Above a n := by
  rcases reflTransGen_iff_eq_or_transGen.mp chain with equal | above
  · exact absurd equal.symm different
  · exact above

-- Above a node stand its parent and what is above the parent, as links are unique.
theorem above_iff (link : t.IsParent p n) : t.Above a n ↔ t.AtOrAbove a p := by
  constructor
  · intro above
    obtain ⟨q,chain,step⟩ := TransGen.tail'_iff.mp above
    rwa [parent_unique link step]
  · intro chain
    exact TransGen.tail' chain link

theorem comparable (one : t.AtOrAbove a n) (two : t.AtOrAbove b n) :
    t.AtOrAbove a b ∨ t.AtOrAbove b a := by
  induction one with
  | refl => exact .inr two
  | @tail m k chain step ih =>
    rcases reflTransGen_iff_eq_or_transGen.mp two with equal | above
    · exact .inl (equal ▸ chain.tail step)
    · exact ih ((above_iff step).mp above)

theorem root_above (shape : t.Preordered) (inside : n < t.size) : t.AtOrAbove root n := by
  induction n using Nat.strongRecOn with
  | ind n ih =>
    by_cases first : n = 0
    · subst first
      exact .refl
    · obtain ⟨p,link,_⟩ := shape.linked n (by omega) inside
      have small := shape.parent_lt link
      exact (ih p small (by omega)).tail link

-- The stretch below a node has no gaps.
theorem between (shape : t.Preordered) (chain : t.AtOrAbove a m) (after : a ≤ k) (before : k ≤ m)
    (inside : m < t.size) : t.AtOrAbove a k := by
  induction m with
  | zero =>
    have equal : k = 0 := by omega
    exact equal ▸ chain
  | succ m ih =>
    by_cases last : k = m + 1
    · exact last ▸ chain
    · obtain ⟨p,link,back⟩ := shape.linked (m + 1) (by omega) inside
      have above : t.Above a (m + 1) := chain.above (by omega)
      have under : t.AtOrAbove a m := ((above_iff link).mp above).trans back
      exact ih under (by omega) (by omega)

theorem mem_children (shape : t.Preordered) (inside : p < t.size) :
    c ∈ t.children p ↔ t.IsParent p c := by
  rw [shape.listed p inside,List.mem_filter,List.mem_range,isChild_iff]
  constructor
  · exact And.right
  · intro link
    exact ⟨parent_inside link,link⟩

theorem childByField_parent (shape : t.Preordered) {field : String} (found : t.childByField p field = some c) :
    t.IsParent p c := by
  have member := List.mem_of_find?_eq_some found
  by_cases inside : p < t.size
  · exact (mem_children shape inside).mp member
  · rw [children,node_outside (Nat.le_of_not_lt inside)] at member
    cases member

theorem children_ascending (shape : t.Preordered) (inside : p < t.size) :
    (t.children p).Pairwise (· < ·) := by
  rw [shape.listed p inside]
  exact List.pairwise_lt_range.filter _

-- Induction from the children up: they stand behind their parent.
theorem Preordered.induct {motive : ∀ n, n < t.size → Prop} (shape : t.Preordered)
    (each : ∀ n inside, (∀ c (link : t.IsParent n c), motive c (parent_inside link)) → motive n inside) (n : Nat)
    (inside : n < t.size) : motive n inside := by
  induction left : t.size - n using Nat.strongRecOn generalizing n with
  | ind left ih =>
    refine each n inside fun c link => ?_
    have below := shape.parent_lt link
    have known := parent_inside link
    exact ih (t.size - c) (by omega) c known rfl

theorem children_nodup (shape : t.Preordered) (inside : p < t.size) : (t.children p).Nodup :=
  (children_ascending shape inside).imp Nat.ne_of_lt

end TreeAudit.Tree
