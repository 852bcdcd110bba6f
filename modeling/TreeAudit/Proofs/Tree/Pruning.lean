import Mathlib.Data.Set.Card
import TreeAudit.Metric
import TreeAudit.Proofs.Tree.Ancestry
import TreeAudit.Proofs.Tree.Preorder

-- Counting with barriers. A barrier hides itself and all that is below it, so a node is counted from
-- above exactly if there is no barrier on the way down to it. What a count comes to is told by that
-- condition alone, without the walk.
namespace TreeAudit.Tree
open Relation

-- The way down from `c` to `d`, without `c` and with `d` itself, has no barrier.
structure Exposed (t : Tree) (barriers : List String) (c d : Nat) : Prop where
  below : t.Above c d
  clear : ∀ m : Nat, t.Above c m → t.AtOrAbove m d → t.kind m ∉ barriers

def counted (t : Tree) (barriers : List String) (counts : NodeId → Bool) (c : NodeId) : Set NodeId :=
  { d | t.Exposed barriers c d ∧ counts d = true }

-- One link of such a way.
def Passes (t : Tree) (barriers : List String) (p c : Nat) : Prop := t.IsParent p c ∧ t.kind c ∉ barriers

-- What a walk finds from a stack.
def Shown (t : Tree) (barriers : List String) (stack : List Nat) (d : Nat) : Prop :=
  ∃ n ∈ stack, t.kind n ∉ barriers ∧ (d = n ∨ t.Exposed barriers n d)

variable {t : Tree} {barriers : List String} {counts : NodeId → Bool} {a b c d hi lo m n p : Nat}
  {stack rest : List Nat}

theorem AtOrAbove.last (link : t.IsParent p d) (chain : t.AtOrAbove m d) : m = d ∨ t.AtOrAbove m p := by
  rcases reflTransGen_iff_eq_or_transGen.mp chain with same | above
  · exact .inl same.symm
  · exact .inr ((above_iff link).mp above)

theorem exposed_child (shape : t.Preordered) (passes : t.Passes barriers c d) : t.Exposed barriers c d := by
  refine ⟨.single passes.1,fun m below chain => ?_⟩
  rcases chain.last passes.1 with rfl | upper
  · exact passes.2
  · have low := AtOrAbove.le shape upper
    have high := Above.lt shape below
    omega

theorem Exposed.further (exposed : t.Exposed barriers c p) (passes : t.Passes barriers p d) :
    t.Exposed barriers c d := by
  refine ⟨exposed.below.tail passes.1,fun m below chain => ?_⟩
  rcases chain.last passes.1 with rfl | upper
  · exact passes.2
  · exact exposed.clear m below upper

theorem exposed_iff (shape : t.Preordered) :
    t.Exposed barriers c d ↔ TransGen (t.Passes barriers) c d := by
  constructor
  · rintro ⟨below,clear⟩
    induction below with
    | single link => exact .single ⟨link,clear _ (.single link) .refl⟩
    | @tail p d above link ih =>
      have passes : t.Passes barriers p d := ⟨link,clear d (above.tail link) .refl⟩
      exact (ih fun m below chain => clear m below (chain.tail link)).tail passes
  · intro way
    induction way with
    | single passes => exact exposed_child shape passes
    | tail _ passes ih => exact ih.further passes

-- The way down begins with a child.
theorem exposed_children (shape : t.Preordered) (inside : c < t.size) :
    t.Exposed barriers c d ↔ t.Shown barriers (t.children c) d := by
  rw [exposed_iff shape,TransGen.head'_iff]
  constructor
  · rintro ⟨n,⟨link,clear⟩,way⟩
    refine ⟨n,(mem_children shape inside).mpr link,clear,?_⟩
    exact (reflTransGen_iff_eq_or_transGen.mp way).imp id (exposed_iff shape).mpr
  · rintro ⟨n,member,clear,way⟩
    refine ⟨n,⟨(mem_children shape inside).mp member,clear⟩,?_⟩
    exact reflTransGen_iff_eq_or_transGen.mpr (way.imp id (exposed_iff shape).mp)

theorem shown_barrier (hidden : t.kind n ∈ barriers) :
    t.Shown barriers (n :: rest) d ↔ t.Shown barriers rest d := by
  simp [Shown,hidden]

theorem shown_open (shape : t.Preordered) (inside : n < t.size) (clear : t.kind n ∉ barriers) :
    t.Shown barriers (n :: rest) d ↔ d = n ∨ t.Shown barriers (t.children n ++ rest) d := by
  have children : t.Exposed barriers n d ↔ t.Shown barriers (t.children n) d := exposed_children shape inside
  simp only [Shown,List.mem_cons,List.mem_append,or_and_right,exists_or,exists_eq_left] at children ⊢
  rw [← children]
  simp only [clear,not_false_eq_true,true_and,or_assoc]

-- The walk pops the node at the low end. A barrier is dropped with its whole stretch; any other node is
-- counted, and its children cover the rest of its stretch.
theorem countFrom_covers (barriers : List String) (counts : NodeId → Bool) (shape : t.Preordered) (steps : Nat) :
    t.Covers lo stack hi → hi - lo ≤ steps → ∃ ds : List Nat, ds.Pairwise (· < ·) ∧ (∀ d ∈ ds, lo ≤ d) ∧
      (∀ d, d ∈ ds ↔ t.Shown barriers stack d ∧ counts d = true) ∧
      t.countFrom barriers counts steps stack = ds.length := by
  induction steps generalizing lo stack with
  | zero =>
    intro covers enough
    cases covers with
    | nil => exact ⟨[],.nil,by simp,by simp [Shown],rfl⟩
    | cons stretch later =>
      have follows := stretch.1
      have bound := later.le
      omega
  | succ steps ih =>
    intro covers enough
    cases covers with
    | nil => exact ⟨[],.nil,by simp,by simp [Shown],rfl⟩
    | @cons n e rest _ stretch later =>
      have follows := stretch.1
      have bound := later.le
      by_cases hidden : t.kind lo ∈ barriers
      · obtain ⟨ds,ordered,least,exact,total⟩ := ih later (by omega)
        refine ⟨ds,ordered,fun d member => Nat.le_trans (Nat.le_of_lt follows) (least d member),?_,?_⟩
        · simpa only [shown_barrier hidden] using exact
        · rw [countFrom,if_pos (List.contains_iff_mem.mpr hidden),total]
      · obtain ⟨ds,ordered,least,exact,total⟩ := ih ((covers_children shape stretch).append later) (by omega)
        have visited : t.countFrom barriers counts (steps + 1) (lo :: rest) =
            (if counts lo then 1 else 0) + ds.length := by
          rw [countFrom,if_neg (mt List.contains_iff_mem.mp hidden),total]
        have shown (d : Nat) : t.Shown barriers (lo :: rest) d ↔
          d = lo ∨ t.Shown barriers (t.children lo ++ rest) d := shown_open shape stretch.inside hidden
        cases hit : counts lo with
        | true =>
          refine ⟨lo :: ds,.cons least ordered,?_,fun d => ?_,?_⟩
          · exact List.forall_mem_cons.mpr ⟨Nat.le_refl _,fun d member => Nat.le_of_succ_le (least d member)⟩
          · rw [List.mem_cons,exact,shown,or_and_right]
            exact or_congr_left ⟨fun same => ⟨same,same ▸ hit⟩,And.left⟩
          · rw [visited,hit,if_pos rfl,List.length_cons,Nat.add_comm]
        | false =>
          refine ⟨ds,ordered,fun d member => Nat.le_of_succ_le (least d member),fun d => ?_,?_⟩
          · rw [exact,shown,or_and_right]
            refine ⟨.inr,fun either => either.resolve_left fun ⟨same,hits⟩ => ?_⟩
            rw [same,hit] at hits
            cases hits
          · rw [visited,hit,if_neg Bool.false_ne_true,Nat.zero_add]

theorem Exposed.inside (shape : t.Preordered) (exposed : t.Exposed barriers c d) : c < t.size :=
  Nat.lt_trans (Above.lt shape exposed.below) exposed.below.inside

-- Sets of nodes have no more elements than the tree has nodes.
theorem within_size {s : Set Nat} (inside : ∀ d ∈ s, d < t.size) : s.Finite ∧ s.ncard ≤ t.size := by
  have within : s ⊆ ↑(Finset.range t.size) := fun d member =>
    Finset.mem_coe.mpr (Finset.mem_range.mpr (inside d member))
  refine ⟨(Finset.finite_toSet _).subset within,?_⟩
  have bound := Set.ncard_le_ncard within (Finset.finite_toSet _)
  rwa [Set.ncard_coe_finset,Finset.card_range] at bound

theorem countP_ncard {ns : List Nat} (distinct : ns.Nodup) (counts : Nat → Bool) :
    ns.countP counts = { n | n ∈ ns ∧ counts n = true }.ncard := by
  have same : { n | n ∈ ns ∧ counts n = true } = ↑(ns.filter counts).toFinset := by
    ext n
    simp
  rw [same,Set.ncard_coe_finset,List.toFinset_card_of_nodup (distinct.filter _),List.countP_eq_length_filter]

theorem counted_finite (t : Tree) (barriers : List String) (counts : NodeId → Bool) (c : NodeId) :
    (t.counted barriers counts c).Finite :=
  (within_size fun _ member => member.1.below.inside).1

theorem countBelow_ncard (shape : t.Preordered) (c : NodeId) (barriers : List String)
    (counts : NodeId → Bool) : t.countBelow c barriers counts = (t.counted barriers counts c).ncard := by
  by_cases inside : c < t.size
  · obtain ⟨e,stretch⟩ := exists_stretch shape inside
    have enough := stretch.2.1
    obtain ⟨ds,ordered,_,exact,total⟩ :=
      countFrom_covers barriers counts shape t.size (covers_children shape stretch) (by omega)
    have same : t.counted barriers counts c = ↑ds.toFinset := by
      ext d
      rw [List.coe_toFinset,Set.mem_ofPred_eq,exact,← exposed_children shape inside]
      rfl
    rw [countBelow,total,same,Set.ncard_coe_finset,List.toFinset_card_of_nodup (ordered.imp Nat.ne_of_lt)]
  · have childless : t.children c = [] := by
      rw [children,node_outside (Nat.le_of_not_lt inside)]
      rfl
    have none : t.counted barriers counts c = ∅ :=
      Set.eq_empty_of_forall_notMem fun d member => inside (member.1.inside shape)
    rw [countBelow,childless,none,Set.ncard_empty]
    cases t.size <;> rfl

-- Where a barrier stands between any two nodes of some kind that are above each other, a third node is
-- exposed to at most one of that kind.
theorem exposed_unique {among : Nat → Prop}
    (apart : ∀ a b : Nat, among a → among b → t.Above a b → ∃ m, t.Above a m ∧ t.Above m b ∧ t.kind m ∈ barriers)
    (first : among a) (second : among b) (one : t.Exposed barriers a d) (two : t.Exposed barriers b d) : a = b := by
  by_contra different
  rcases comparable one.below.to_reflTransGen two.below.to_reflTransGen with upper | lower
  · obtain ⟨m,later,earlier,barrier⟩ := apart a b first second (upper.above different)
    exact one.clear m later (earlier.trans two.below).to_reflTransGen barrier
  · obtain ⟨m,later,earlier,barrier⟩ := apart b a second first (lower.above (Ne.symm different))
    exact two.clear m later (earlier.trans one.below).to_reflTransGen barrier

-- A node that is no barrier is exposed to a barrier exactly if that is the nearest one above it.
theorem exposed_barrier (shape : t.Preordered) (barrier : t.kind a ∈ barriers) (clear : t.kind d ∉ barriers) :
    t.Exposed barriers a d ↔ (t.ancestors d).find? (fun n => barriers.contains (t.kind n)) = some a := by
  rw [find_ancestor_iff shape,List.contains_iff_mem]
  constructor
  · rintro ⟨below,unhidden⟩
    refine ⟨barrier,below,fun m later earlier => ?_⟩
    simpa using unhidden m later earlier.to_reflTransGen
  · rintro ⟨_,below,unhidden⟩
    refine ⟨below,fun m later chain => ?_⟩
    rcases reflTransGen_iff_eq_or_transGen.mp chain with same | earlier
    · exact same ▸ clear
    · simpa using unhidden m later earlier

end TreeAudit.Tree
