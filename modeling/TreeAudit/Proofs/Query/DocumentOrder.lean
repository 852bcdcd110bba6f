import Mathlib.Data.List.Sort
import TreeAudit.Proofs.Query.Axes

-- Document order. Sorting and dropping repetitions gives the one ascending list with the same members,
-- and values are orderly when they hold single values only or are such a list of nodes.
namespace TreeAudit.Query
variable {ids other : List Nat} {m n : Nat} {t : Tree}

theorem mem_dropRepeats : m ∈ dropRepeats ids ↔ m ∈ ids := by
  fun_induction dropRepeats ids with
  | case1 => rfl
  | case2 a => rfl
  | case3 a rest ih =>
    rw [ih,List.mem_cons (l := a :: rest)]
    exact ⟨.inr,fun either => either.elim (fun equal => equal ▸ List.mem_cons_self) id⟩
  | case4 a b rest different ih => rw [List.mem_cons,ih,List.mem_cons (l := b :: rest)]

theorem dropRepeats_ascending (sorted : ids.Pairwise (· ≤ ·)) :
    (dropRepeats ids).Pairwise (· < ·) := by
  fun_induction dropRepeats ids with
  | case1 => exact .nil
  | case2 a => exact List.pairwise_singleton _ _
  | case3 a rest ih => exact ih (List.pairwise_cons.mp sorted).2
  | case4 a b rest different ih =>
    obtain ⟨least,later⟩ := List.pairwise_cons.mp sorted
    refine .cons (fun m member => ?_) (ih later)
    -- All that follows is at least `b`, which is more than `a`.
    have low : a ≤ b := least b List.mem_cons_self
    have high : b ≤ m := by
      rcases List.mem_cons.mp (mem_dropRepeats.mp member) with equal | inner
      · exact Nat.le_of_eq equal.symm
      · exact (List.pairwise_cons.mp later).1 m inner
    omega

theorem mem_documentOrder : m ∈ documentOrder ids ↔ m ∈ ids := by
  rw [documentOrder,mem_dropRepeats,List.mem_mergeSort]

theorem documentOrder_ascending (ids : List Nat) : (documentOrder ids).Pairwise (· < ·) :=
  dropRepeats_ascending (List.pairwise_mergeSort' (· ≤ ·) ids)

theorem documentOrder_congr (same : ∀ m, m ∈ ids ↔ m ∈ other) :
    documentOrder ids = documentOrder other := by
  refine (documentOrder_ascending ids).eq_of_mem_iff (documentOrder_ascending other) fun m => ?_
  rw [mem_documentOrder,mem_documentOrder,same]

theorem documentOrder_of_ascending (ascending : ids.Pairwise (· < ·)) : documentOrder ids = ids :=
  (documentOrder_ascending ids).eq_of_mem_iff ascending fun _ => mem_documentOrder

-- Nothing but single values, or nodes of the tree in document order, each once.
def Value.Orderly (t : Tree) (value : Value) : Prop :=
  (∀ i ∈ value, i.isNode = false) ∨
    ∃ ids : List Nat, value = Value.ofNodes ids ∧ ids.Pairwise (· < ·) ∧ ∀ id ∈ ids, id < t.size

def Item.Inside (t : Tree) : Item → Prop
  | .node id => id < t.size
  | .atom _ => True

namespace Value
variable {value items part : Value}

theorem nodeIds_ofNodes (ids : List Nat) : (ofNodes ids).nodeIds = ids := by
  rw [nodeIds,ofNodes,List.filterMap_map]
  exact List.filterMap_some

theorem mem_nodeIds : m ∈ value.nodeIds ↔ .node m ∈ value := by
  rw [nodeIds,List.mem_filterMap]
  constructor
  · rintro ⟨i,member,found⟩
    cases i with
    | node id => exact Option.some.inj found ▸ member
    | atom a => cases found
  · intro member
    exact ⟨_,member,rfl⟩

theorem nodeIds_atoms (atoms : ∀ i ∈ value, i.isNode = false) : value.nodeIds = [] := by
  rw [List.eq_nil_iff_forall_not_mem]
  intro id member
  cases atoms _ (mem_nodeIds.mp member)

theorem Orderly.empty : Value.Orderly t [] := .inl fun _ member => absurd member List.not_mem_nil

theorem Orderly.atom (a : Atom) : Value.Orderly t [.atom a] := .inl (List.forall_mem_singleton.mpr rfl)

theorem Orderly.inside (orderly : value.Orderly t) : ∀ i ∈ value, i.Inside t := by
  intro i member
  rcases orderly with atoms | ⟨ids,rfl,_,inside⟩
  · cases i with
    | node id => cases atoms _ member
    | atom a => trivial
  · obtain ⟨id,among,rfl⟩ := List.mem_map.mp member
    exact inside id among

theorem Orderly.sublist (orderly : value.Orderly t) (short : part.Sublist value) :
    part.Orderly t := by
  rcases orderly with atoms | ⟨ids,rfl,ascending,inside⟩
  · exact .inl fun i member => atoms i (short.subset member)
  · obtain ⟨kept,shorter,rfl⟩ := List.sublist_map_iff.mp short
    exact .inr ⟨kept,rfl,ascending.sublist shorter,fun id member => inside id (shorter.subset member)⟩

theorem Orderly.nodeIds_ascending (orderly : value.Orderly t) :
    value.nodeIds.Pairwise (· < ·) ∧ ∀ id ∈ value.nodeIds, id < t.size := by
  refine ⟨?_,fun id member => orderly.inside _ (mem_nodeIds.mp member)⟩
  rcases orderly with atoms | ⟨ids,rfl,ascending,_⟩
  · rw [nodeIds_atoms atoms]
    exact .nil
  · rw [nodeIds_ofNodes]
    exact ascending

theorem documentOrder_orderly (inside : ∀ id ∈ ids, id < t.size) :
    (ofNodes (documentOrder ids)).Orderly t :=
  .inr ⟨documentOrder ids,rfl,documentOrder_ascending ids,
    fun id member => inside id (mem_documentOrder.mp member)⟩

theorem Orderly.single (i : Item) (inside : i.Inside t) : Value.Orderly t [i] := by
  cases i with
  | node id => exact .inr ⟨[id],rfl,List.pairwise_singleton _ _,List.forall_mem_singleton.mpr inside⟩
  | atom a => exact .atom a

theorem arrange_ofNodes (ids : List Nat) : arrange (ofNodes ids) = ofNodes (documentOrder ids) := by
  have all : (ofNodes ids).allNodes = true := by
    rw [allNodes,ofNodes,List.all_map,List.all_eq_true]
    exact fun _ _ => rfl
  rw [arrange,if_pos all,nodeIds_ofNodes]

theorem arrange_nil : arrange [] = [] := by
  rw [show ([] : List Item) = ofNodes [] from rfl,arrange_ofNodes,documentOrder_of_ascending .nil]

-- Items that are all nodes or all single values become orderly once they are arranged.
theorem arrange_orderly (kind : Bool) (alike : ∀ i ∈ items, i.isNode = kind ∧ i.Inside t) :
    Value.Orderly t (arrange items) := by
  unfold arrange
  split
  · exact documentOrder_orderly fun id member => (alike _ (mem_nodeIds.mp member)).2
  · rename_i mixed
    cases kind with
    | true => exact absurd (List.all_eq_true.mpr fun i member => (alike i member).1) mixed
    | false => exact .inl fun i member => (alike i member).1

end Value
end TreeAudit.Query
