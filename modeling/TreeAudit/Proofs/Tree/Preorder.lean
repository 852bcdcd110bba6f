import Mathlib.Data.Nat.Find
import TreeAudit.Proofs.Tree.Shape

-- The downward walk. A node and what is below it fill a stretch of ids, the stretches of its children
-- follow each other without a gap, and the stack of the walk always covers what is still to be visited.
namespace TreeAudit.Tree
open Relation

def Stretch (t : Tree) (n e : Nat) : Prop :=
  n < e ∧ e ≤ t.size ∧ ∀ m : Nat, m < t.size → (t.AtOrAbove n m ↔ n ≤ m ∧ m < e)

-- A list of nodes whose stretches follow each other from `lo` up to `hi`.
inductive Covers (t : Tree) : Nat → List Nat → Nat → Prop where
  | nil : Covers t lo [] lo
  | cons : t.Stretch n e → Covers t e rest hi → Covers t n (n :: rest) hi

variable {t : Tree} {a b c e hi k lo m mid n p : Nat} {stack rest : List Nat}

-- The least id after the node that is not below it ends the stretch, as there are no gaps.
theorem exists_stretch (shape : t.Preordered) (inside : n < t.size) : ∃ e, t.Stretch n e := by
  classical
  have ends : ∃ e, n < e ∧ (e < t.size → ¬ t.AtOrAbove n e) :=
    ⟨t.size,inside,fun beyond => absurd beyond (Nat.lt_irrefl _)⟩
  obtain ⟨after,apart⟩ := Nat.find_spec ends
  have least : ∀ m : Nat, m < Nat.find ends → n < m → m < t.size ∧ t.AtOrAbove n m := by
    intro m small later
    have failed := Nat.find_min ends small
    by_contra other
    exact failed ⟨later,fun known chain => other ⟨known,chain⟩⟩
  have bound : Nat.find ends ≤ t.size :=
    Nat.find_min' ends ⟨inside,fun beyond => absurd beyond (Nat.lt_irrefl _)⟩
  refine ⟨Nat.find ends,after,bound,?_⟩
  intro m known
  constructor
  · intro chain
    refine ⟨AtOrAbove.le shape chain,Nat.lt_of_not_le fun beyond => ?_⟩
    exact apart (Nat.lt_of_le_of_lt beyond known)
      (between shape chain (Nat.le_of_lt after) beyond known)
  · intro range
    by_cases same : m = n
    · subst same
      exact .refl
    · exact (least m range.2 (by omega)).2

theorem Stretch.inside (stretch : t.Stretch n e) : n < t.size :=
  Nat.lt_of_lt_of_le stretch.1 stretch.2.1

theorem Stretch.root (wf : t.WellFormed) : t.Stretch root t.size := by
  refine ⟨wf.rooted,Nat.le_refl _,fun m inside => ⟨fun _ => ⟨Nat.zero_le _,inside⟩,fun _ => ?_⟩⟩
  exact root_above wf.toPreordered inside

-- Where the stretch of a child ends, the next child begins, unless the parent ends there too.
theorem Stretch.next (shape : t.Preordered) (outer : t.Stretch n e) (link : t.IsParent n c)
    (inner : t.Stretch c k) (before : k < e) : t.IsParent n k := by
  have inside : k < t.size := Nat.lt_of_lt_of_le before outer.2.1
  have low : n < c := shape.parent_lt link
  have follows : c < k := inner.1
  obtain ⟨p,up,back⟩ := shape.linked k (by omega) inside
  have last : t.AtOrAbove c (k - 1) := (inner.2.2 (k - 1) (by omega)).mpr ⟨by omega,by omega⟩
  have under : t.AtOrAbove n k := (outer.2.2 k inside).mpr ⟨by omega,before⟩
  have lower : t.AtOrAbove n p := (above_iff up).mp (under.above (by omega))
  rcases comparable last back with below | above
  · have reached := (inner.2.2 k inside).mp (below.tail up)
    omega
  · by_cases same : p = c
    · subst same
      have reached := (inner.2.2 k inside).mp (.single up)
      omega
    · -- The parent lies strictly above the child and not above its parent.
      have upper : t.AtOrAbove p n := (above_iff link).mp (above.above same)
      have one := AtOrAbove.le shape lower
      have two := AtOrAbove.le shape upper
      have equal : p = n := by omega
      exact equal ▸ up

theorem Stretch.first (shape : t.Preordered) (outer : t.Stretch n e) (more : n + 1 < e) :
    t.IsParent n (n + 1) := by
  have inside : n + 1 < t.size := Nat.lt_of_lt_of_le more outer.2.1
  obtain ⟨p,up,back⟩ := shape.linked (n + 1) (by omega) inside
  have under : t.AtOrAbove n (n + 1) := (outer.2.2 (n + 1) inside).mpr ⟨by omega,more⟩
  have lower := AtOrAbove.le shape ((above_iff up).mp (under.above (by omega)))
  have upper : p ≤ n := AtOrAbove.le shape back
  have equal : p = n := by omega
  exact equal ▸ up

theorem Covers.append (one : t.Covers lo stack mid) (two : t.Covers mid rest hi) :
    t.Covers lo (stack ++ rest) hi := by
  induction one with
  | nil => exact two
  | cons stretch _ ih => exact .cons stretch (ih two)

theorem Covers.le (covers : t.Covers lo stack hi) : lo ≤ hi := by
  induction covers with
  | nil => exact Nat.le_refl _
  | cons stretch _ ih => exact Nat.le_trans (Nat.le_of_lt stretch.1) ih

theorem filter_range'_skip {wanted : Nat → Bool} {len skip : Nat}
    (nothing : ∀ m : Nat, lo ≤ m → m < lo + skip → wanted m = false) (fits : skip ≤ len) :
    (List.range' lo len).filter wanted = (List.range' (lo + skip) (len - skip)).filter wanted := by
  have whole : len = skip + (len - skip) := by omega
  rw [whole,← List.range'_append_1,List.filter_append,Nat.add_sub_cancel_left]
  have empty : (List.range' lo skip).filter wanted = [] := by
    rw [List.filter_eq_nil_iff]
    intro m member
    obtain ⟨start,before⟩ := List.mem_range'_1.mp member
    simp [nothing m start before]
  rw [empty,List.nil_append]

-- Induction on what is left of the parent's stretch, one child at a time.
theorem covers_from (shape : t.Preordered) (outer : t.Stretch n e) (left : Nat) :
    ∀ lo : Nat, e - lo = left → n < lo → lo ≤ e → (lo < e → t.IsParent n lo) →
      t.Covers lo ((List.range' lo (t.size - lo)).filter (t.isChild n)) e := by
  induction left using Nat.strongRecOn with
  | ind left ih =>
    intro lo gap later upto starts
    by_cases done : lo = e
    · have none : (List.range' lo (t.size - lo)).filter (t.isChild n) = [] := by
        rw [List.filter_eq_nil_iff]
        intro m member link
        have here := List.mem_range'_1.mp member
        have reached := (outer.2.2 m (by omega)).mp (.single (isChild_iff.mp link))
        omega
      rw [none,done]
      exact .nil
    · have link := starts (by omega)
      obtain ⟨stop,inner⟩ := exists_stretch shape (parent_inside link)
      have follows := inner.1
      have bound : stop ≤ e := by
        apply Nat.le_of_not_lt
        intro beyond
        have inside : e < t.size := Nat.lt_of_lt_of_le beyond inner.2.1
        have chain := (inner.2.2 e inside).mpr ⟨by omega,beyond⟩
        have reached := (outer.2.2 e inside).mp (ReflTransGen.head link chain)
        omega
      have size := outer.2.1
      -- What lies inside the child's stretch has a parent there and not the outer node.
      have apart : ∀ m : Nat, lo + 1 ≤ m → m < lo + 1 + (stop - (lo + 1)) →
          t.isChild n m = false := by
        intro m start before
        rw [Bool.eq_false_iff]
        intro other
        have chain := (inner.2.2 m (by omega)).mpr ⟨by omega,by omega⟩
        have lower := AtOrAbove.le shape ((above_iff (isChild_iff.mp other)).mp (chain.above (by omega)))
        omega
      have split : t.size - lo = t.size - lo - 1 + 1 := by omega
      rw [split,List.range'_succ,List.filter_cons_of_pos (isChild_iff.mpr link),
        filter_range'_skip apart (by omega)]
      have again : lo + 1 + (stop - (lo + 1)) = stop := by omega
      have rest : t.size - lo - 1 - (stop - (lo + 1)) = t.size - stop := by omega
      rw [again,rest]
      exact .cons inner (ih (e - stop) (by omega) stop rfl (by omega) bound
        (outer.next shape link inner))

theorem covers_children (shape : t.Preordered) (outer : t.Stretch n e) :
    t.Covers (n + 1) (t.children n) e := by
  have covered := covers_from shape outer _ (n + 1) rfl (by omega) outer.1 (outer.first shape)
  have apart : ∀ m : Nat, 0 ≤ m → m < 0 + (n + 1) → t.isChild n m = false := by
    intro m _ before
    rw [Bool.eq_false_iff]
    intro link
    have small := shape.parent_lt (isChild_iff.mp link)
    omega
  rw [shape.listed n outer.inside,List.range_eq_range',filter_range'_skip apart outer.inside,
    Nat.zero_add]
  exact covered

-- The walk pops the node at the low end and puts its children there, which covers the same ids.
theorem preorder_covers (shape : t.Preordered) (steps : Nat) :
    t.Covers lo stack hi → hi - lo ≤ steps → t.preorder steps stack = List.range' lo (hi - lo) := by
  induction steps generalizing lo stack with
  | zero =>
    intro covers enough
    have none : hi - lo = 0 := by omega
    rw [preorder,none,List.range'_zero]
  | succ steps ih =>
    intro covers enough
    cases covers with
    | nil => rw [preorder,Nat.sub_self,List.range'_zero]
    | @cons _ e rest _ stretch later =>
      have follows := stretch.1
      have bound := later.le
      have next := ih ((covers_children shape stretch).append later) (by omega)
      have split : hi - lo = hi - (lo + 1) + 1 := by omega
      rw [preorder,next,split,List.range'_succ]

theorem descendantsOrSelf_stretch (shape : t.Preordered) (stretch : t.Stretch n e) :
    t.descendantsOrSelf n = List.range' n (e - n) := by
  have enough := stretch.2.1
  exact preorder_covers shape t.size (.cons stretch .nil) (by omega)

theorem descendants_stretch (shape : t.Preordered) (stretch : t.Stretch n e) :
    t.descendants n = List.range' (n + 1) (e - (n + 1)) := by
  have enough := stretch.2.1
  exact preorder_covers shape t.size (covers_children shape stretch) (by omega)

theorem mem_descendantsOrSelf (shape : t.Preordered) (inside : n < t.size) :
    m ∈ t.descendantsOrSelf n ↔ t.AtOrAbove n m := by
  obtain ⟨e,stretch⟩ := exists_stretch shape inside
  have size := stretch.2.1
  have follows := stretch.1
  rw [descendantsOrSelf_stretch shape stretch,List.mem_range'_1]
  constructor
  · intro range
    exact (stretch.2.2 m (by omega)).mpr ⟨range.1,by omega⟩
  · intro chain
    by_cases same : n = m
    · omega
    · have range := (stretch.2.2 m (chain.above same).inside).mp chain
      omega

theorem mem_descendants (shape : t.Preordered) (inside : n < t.size) :
    m ∈ t.descendants n ↔ t.Above n m := by
  obtain ⟨e,stretch⟩ := exists_stretch shape inside
  have size := stretch.2.1
  rw [descendants_stretch shape stretch,List.mem_range'_1]
  constructor
  · intro range
    exact ((stretch.2.2 m (by omega)).mpr ⟨by omega,by omega⟩).above (by omega)
  · intro above
    have range := (stretch.2.2 m above.inside).mp above.to_reflTransGen
    have small := Above.lt shape above
    omega

end TreeAudit.Tree
