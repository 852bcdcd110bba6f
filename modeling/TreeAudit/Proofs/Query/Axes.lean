import TreeAudit.Java.Language
import TreeAudit.Proofs.Tree.Ancestry
import TreeAudit.Proofs.Tree.Building
import TreeAudit.Proofs.Tree.Preorder
import TreeAudit.Query.Evaluate

-- Axes. What stands on an axis is said by parent links alone; the children lists, parent chains, stack
-- walks and sibling positions that enumerate the axes all come down to that relation.
namespace TreeAudit
namespace Tree
variable {t : Tree} {a m n p : Nat}

-- In an ascending list what follows a member is what is greater, and what precedes it is what is less.
theorem split_at_member {l : List Nat} (ascending : l.Pairwise (· < ·)) (present : m ∈ l) :
    l.drop ((l.findIdx? (· = m)).getD 0 + 1) = l.filter (m < ·) ∧
      l.take ((l.findIdx? (· = m)).getD 0) = l.filter (· < m) := by
  induction l with
  | nil => cases present
  | cons x l ih =>
    obtain ⟨least,rest⟩ := List.pairwise_cons.mp ascending
    by_cases here : x = m
    · subst here
      have after : l.filter (x < ·) = l :=
        List.filter_eq_self.mpr fun y member => decide_eq_true (least y member)
      have before : l.filter (· < x) = [] := by
        rw [List.filter_eq_nil_iff]
        intro y member smaller
        exact Nat.lt_asymm (least y member) (of_decide_eq_true smaller)
      simp [List.findIdx?_cons,after,before]
    · have later : m ∈ l := (List.mem_cons.mp present).resolve_left (Ne.symm here)
      have less := least m later
      obtain ⟨after,before⟩ := ih rest later
      obtain ⟨i,found⟩ : ∃ i, l.findIdx? (· = m) = some i := by
        rw [← Option.isSome_iff_exists,List.findIdx?_isSome,List.any_eq_true]
        exact ⟨m,later,decide_eq_true rfl⟩
      rw [found] at after before
      simp only [List.findIdx?_cons,here,found,decide_false,Bool.false_eq_true,if_false,Option.map_some,
        Option.getD_some,List.drop_succ_cons,List.take_succ_cons] at after before ⊢
      rw [after,before,List.filter_cons_of_neg (by simpa using Nat.le_of_lt less),
        List.filter_cons_of_pos (by simpa using less)]
      exact ⟨rfl,rfl⟩

theorem followingSiblings_eq (shape : t.Preordered) (link : t.IsParent p n) :
    t.followingSiblings n = (t.children p).filter (n < ·) := by
  have inside := Nat.lt_trans (shape.parent_lt link) (parent_inside link)
  have up : t.parent n = some p := link
  rw [followingSiblings,indexInParent,up]
  exact (split_at_member (children_ascending shape inside) ((mem_children shape inside).mpr link)).1

theorem precedingSiblings_eq (shape : t.Preordered) (link : t.IsParent p n) :
    t.precedingSiblings n = ((t.children p).filter (· < n)).reverse := by
  have inside := Nat.lt_trans (shape.parent_lt link) (parent_inside link)
  have up : t.parent n = some p := link
  rw [precedingSiblings,indexInParent,up]
  exact congrArg List.reverse
    (split_at_member (children_ascending shape inside) ((mem_children shape inside).mpr link)).2

end Tree

namespace Query
open Relation

namespace Axis

-- The relation that an axis names: whether `m` stands on the axis from `n`.
def Leads (axis : Axis) (t : Tree) (n m : Nat) : Prop :=
  match axis with
  | .child => t.IsParent n m
  | .descendant => t.Above n m
  | .descendantOrSelf => t.AtOrAbove n m
  | .parent => t.IsParent m n
  | .ancestor => t.Above m n
  | .ancestorOrSelf => t.AtOrAbove m n
  | .self => n = m
  | .followingSibling => ∃ p, t.IsParent p n ∧ t.IsParent p m ∧ n < m
  | .precedingSibling => ∃ p, t.IsParent p n ∧ t.IsParent p m ∧ m < n
  | .attributes => False

def inverse : Axis → Axis
  | .child => .parent
  | .descendant => .ancestor
  | .descendantOrSelf => .ancestorOrSelf
  | .parent => .child
  | .ancestor => .descendant
  | .ancestorOrSelf => .descendantOrSelf
  | .self => .self
  | .followingSibling => .precedingSibling
  | .precedingSibling => .followingSibling
  | .attributes => .attributes

-- Whether an axis lists its nodes nearest first, against document order.
def goesBack : Axis → Bool
  | .ancestor | .ancestorOrSelf | .precedingSibling => true
  | _ => false

theorem leads_inverse {t : Tree} (axis : Axis) : axis.Leads t n m ↔ axis.inverse.Leads t m n := by
  cases axis with
  | self => exact eq_comm
  | followingSibling | precedingSibling =>
    constructor
    all_goals
      rintro ⟨p,one,two,order⟩
      exact ⟨p,two,one,order⟩
  | _ => exact Iff.rfl

theorem Leads.inside {t : Tree} (shape : t.Preordered) {axis : Axis} (leads : axis.Leads t n m)
    (inside : n < t.size) : m < t.size := by
  cases axis with
  | child => exact Tree.parent_inside leads
  | descendant => exact Tree.Above.inside leads
  | descendantOrSelf => exact Tree.AtOrAbove.inside leads inside
  | parent => exact Nat.lt_trans (shape.parent_lt leads) inside
  | ancestor => exact Nat.lt_trans (Tree.Above.lt shape leads) inside
  | ancestorOrSelf => exact Nat.lt_of_le_of_lt (Tree.AtOrAbove.le shape leads) inside
  | self => exact leads ▸ inside
  | followingSibling | precedingSibling =>
    obtain ⟨p,_,link,_⟩ := leads
    exact Tree.parent_inside link
  | attributes => cases leads

end Axis

namespace Setting
variable {s : Setting} {m n : Nat}

theorem mem_siblings (shape : s.tree.Preordered) :
    (m ∈ s.tree.followingSiblings n ↔ Axis.followingSibling.Leads s.tree n m) ∧
      (m ∈ s.tree.precedingSiblings n ↔ Axis.precedingSibling.Leads s.tree n m) := by
  cases up : s.tree.parent n with
  | none =>
    have orphan : ∀ p, ¬ s.tree.IsParent p n := by
      intro p link
      cases up.symm.trans link
    simp [Tree.followingSiblings,Tree.precedingSiblings,up,Axis.Leads,orphan]
  | some p =>
    have link : s.tree.IsParent p n := up
    have inside := Nat.lt_trans (shape.parent_lt link) (Tree.parent_inside link)
    have only : ∀ q, s.tree.IsParent q n ↔ q = p :=
      fun q => ⟨fun other => Tree.parent_unique other link,fun equal => equal ▸ link⟩
    simp [Tree.followingSiblings_eq shape link,Tree.precedingSiblings_eq shape link,Axis.Leads,only,
      Tree.mem_children shape inside]

theorem mem_axisNodes (shape : s.tree.Preordered) (inside : n < s.tree.size) (axis : Axis) :
    m ∈ s.axisNodes axis n ↔ axis.Leads s.tree n m := by
  cases axis with
  | child => exact Tree.mem_children shape inside
  | descendant => exact Tree.mem_descendants shape inside
  | descendantOrSelf => exact Tree.mem_descendantsOrSelf shape inside
  | parent => exact Option.mem_toList
  | ancestor => exact Tree.mem_ancestors shape
  | ancestorOrSelf =>
    rw [axisNodes,List.mem_cons,Tree.mem_ancestors shape,eq_comm]
    exact reflTransGen_iff_eq_or_transGen.symm
  | self => exact List.mem_singleton.trans eq_comm
  | followingSibling => exact (mem_siblings shape).1
  | precedingSibling => exact (mem_siblings shape).2
  | attributes => exact iff_of_false List.not_mem_nil id

theorem siblings_ordered (shape : s.tree.Preordered) :
    (s.tree.followingSiblings n).Pairwise (· < ·) ∧ (s.tree.precedingSiblings n).Pairwise (· > ·) := by
  cases up : s.tree.parent n with
  | none => simp [Tree.followingSiblings,Tree.precedingSiblings,up]
  | some p =>
    have inside := Nat.lt_trans (shape.parent_lt up) (Tree.parent_inside up)
    have ascending := Tree.children_ascending shape inside
    rw [Tree.followingSiblings_eq shape up,Tree.precedingSiblings_eq shape up,List.pairwise_reverse]
    exact ⟨ascending.filter _,ascending.filter _⟩

theorem axisNodes_ordered (shape : s.tree.Preordered) (inside : n < s.tree.size) (axis : Axis) :
    (s.axisNodes axis n).Pairwise (if axis.goesBack then (· > ·) else (· < ·)) := by
  obtain ⟨e,stretch⟩ := Tree.exists_stretch shape inside
  cases axis with
  | child => exact Tree.children_ascending shape inside
  | descendant =>
    rw [axisNodes,Tree.descendants_stretch shape stretch]
    exact List.pairwise_lt_range'
  | descendantOrSelf =>
    rw [axisNodes,Tree.descendantsOrSelf_stretch shape stretch]
    exact List.pairwise_lt_range'
  | parent =>
    rw [axisNodes]
    cases s.tree.parent n with
    | none => exact .nil
    | some p => exact List.pairwise_singleton _ _
  | ancestor => exact Tree.ancestors_descending shape
  | ancestorOrSelf =>
    refine .cons ?_ (Tree.ancestors_descending shape)
    intro a member
    exact Tree.Above.lt shape ((Tree.mem_ancestors shape).mp member)
  | self => exact List.pairwise_singleton _ _
  | followingSibling => exact (siblings_ordered shape).1
  | precedingSibling => exact (siblings_ordered shape).2
  | attributes => exact .nil

-- Each axis lists the nodes that stand in its relation, each once and in the order of the axis, and an
-- axis leads back along its inverse.
theorem axisNodes_exact (s : Setting) (built : s.tree.Built) (inside : n < s.tree.size) (axis : Axis) :
    (∀ m, m ∈ s.axisNodes axis n ↔ axis.Leads s.tree n m) ∧
      (s.axisNodes axis n).Nodup ∧
      (s.axisNodes axis n).Pairwise (if axis.goesBack then (· > ·) else (· < ·)) ∧
      ∀ m, m < s.tree.size → (m ∈ s.axisNodes axis n ↔ n ∈ s.axisNodes axis.inverse m) := by
  have shape := built.wellFormed.toPreordered
  have ordered := axisNodes_ordered shape inside axis
  refine ⟨fun m => mem_axisNodes shape inside axis,?_,ordered,?_⟩
  · refine ordered.imp fun {a b} order => ?_
    split at order
    · exact Nat.ne_of_gt order
    · exact Nat.ne_of_lt order
  · intro m known
    rw [mem_axisNodes shape inside,mem_axisNodes shape known,Axis.leads_inverse]

theorem axisNodes_exact_sample :
    2 < sample.size ∧ (Setting.mk sample Java.language).axisNodes .ancestorOrSelf 2 = [2,1,0] ∧
      (∀ m, m ∈ (Setting.mk sample Java.language).axisNodes .ancestorOrSelf 2 ↔ sample.AtOrAbove m 2) ∧
      [2,1,0].Pairwise (· > ·) := by
  have inside : 2 < sample.size := by decide
  have listed : (Setting.mk sample Java.language).axisNodes .ancestorOrSelf 2 = [2,1,0] := by
    decide +kernel
  obtain ⟨exact,_,ordered,_⟩ :=
    axisNodes_exact ⟨sample,Java.language⟩ sample_built inside .ancestorOrSelf
  exact ⟨inside,listed,exact,listed ▸ ordered⟩

end Setting
end Query
end TreeAudit
