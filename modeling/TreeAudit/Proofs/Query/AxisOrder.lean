import TreeAudit.Proofs.Decimal.Differences
import TreeAudit.Proofs.Decimal.Order
import TreeAudit.Proofs.Query.Positions
import TreeAudit.Proofs.Query.UnionLaws

-- Predicates in a step and behind parentheses. A step counts along its axis and a filter in document order:
-- along the axes that list their nodes in document order it makes no difference where a predicate stands,
-- and along those that go back a position is one counted from the end.
namespace TreeAudit.Query
open Decimal

-- The place that is `k` from the end, as `last() - k + 1`.
def Expr.fromEnd (k : Nat) : Expr := .arith .add (.arith .subtract (.call .last []) (.count k)) (.count 1)

section Steps
variable {s : Setting} {axis : Axis} {test : NodeTest} {predicates : List Expr} {items kept value : Value} {p : Place}
  {c : Context} {t : Tree}

-- A path of one step, whatever its predicates.
theorem focus_step (s : Setting) (axis : Axis) (test : NodeTest) (predicates : List Expr) (c : Context) :
    (Expr.path .focus [.mk axis test predicates]).eval s c =
      arrange <$> (s.candidates axis test c.focus >>= evalPredicates s predicates) := by
  rw [focus_path,evalSteps,Step.eval,List.mapM_cons]
  cases s.candidates axis test c.focus >>= evalPredicates s predicates with
  | error f => rfl
  | ok kept =>
    change Except.ok ((placesAfter _ [kept].flatten).filterMap Place.item?) = Except.ok (arrange kept)
    rw [List.flatten_singleton,placesAfter,List.filterMap_append,items_of_places]
    split
    · rfl
    · rfl

theorem Value.Orderly.arranged (orderly : value.Orderly t) : arrange value = value := by
  rcases orderly with atoms | ⟨ids,rfl,ascending,_⟩
  · cases value with
    | nil => exact Value.arrange_nil
    | cons i value =>
      have mixed : ¬Value.allNodes (i :: value) = true := by simp [Value.allNodes,atoms i List.mem_cons_self]
      rw [arrange,if_neg mixed]
  · rw [Value.arrange_ofNodes,documentOrder_of_ascending ascending]

theorem documentNodes_ordered (shape : s.tree.WellFormed) (axis : Axis) :
    (s.documentNodes axis).Pairwise (if axis.goesBack then (· > ·) else (· < ·)) := by
  have all := Setting.axisNodes_ordered shape.toPreordered shape.rooted .descendantOrSelf
  cases axis with
  | child => exact List.pairwise_singleton _ _
  | descendant | descendantOrSelf => exact all
  | _ => exact .nil

theorem passing_ordered (shape : s.tree.WellFormed) (axis : Axis) (test : NodeTest) {o : Option Nat}
    (inside : ∀ id : Nat, o = some id → id < s.tree.size) :
    (s.passing axis test o).Pairwise (if axis.goesBack then (· > ·) else (· < ·)) ∧
      ∀ m ∈ s.passing axis test o, m < s.tree.size := by
  cases o with
  | none =>
    refine ⟨(documentNodes_ordered shape axis).filter _,fun m member => ?_⟩
    exact documentNodes_inside shape axis m (List.mem_of_mem_filter member)
  | some id =>
    have start := inside id rfl
    refine ⟨(Setting.axisNodes_ordered shape.toPreordered start axis).filter _,fun m member => ?_⟩
    have leads := (Setting.mem_axisNodes shape.toPreordered start axis).mp (List.mem_of_mem_filter member)
    exact leads.inside shape.toPreordered start

theorem candidates_orderly (shape : s.tree.WellFormed) (forward : axis.goesBack = false)
    (given : s.candidates axis test p = .ok items) : items.Orderly s.tree := by
  by_cases walks : axis = .attributes
  · left
    intro i member
    rw [(candidates_known shape given i member).1]
    simp [walks]
  · rw [Setting.candidates_eq walks] at given
    cases stands : s.standing p with
    | error f =>
      rw [stands] at given
      cases given
    | ok o =>
      rw [stands] at given
      cases given
      obtain ⟨ordered,inside⟩ := passing_ordered shape axis test (standing_known stands)
      rw [forward] at ordered
      exact .inr ⟨_,rfl,ordered,inside⟩

-- Along an axis in document order what a step selects stands in order before and behind its predicates.
theorem forward_step (shape : s.tree.WellFormed) (forward : axis.goesBack = false) :
    (Expr.path .focus [.mk axis test predicates]).eval s c =
      (Expr.filter (.path .focus [.mk axis test []]) predicates).eval s c := by
  rw [Expr.eval,focus_step,focus_step]
  cases given : s.candidates axis test c.focus with
  | error f => rfl
  | ok items =>
    have orderly := candidates_orderly shape forward given
    change arrange <$> evalPredicates s predicates items = evalPredicates s predicates (arrange items)
    rw [orderly.arranged]
    cases done : evalPredicates s predicates items with
    | error f => rfl
    | ok kept => exact congrArg Except.ok (orderly.sublist (evalPredicates_sublist done)).arranged

end Steps

section Places
variable {s : Setting} {axis : Axis} {test : NodeTest} {ids : List Nat} {k n : Nat} {c : Context}

theorem descending_length (descending : ids.Pairwise (· > ·)) (inside : ∀ m ∈ ids, m < n) : ids.length ≤ n := by
  have distinct : ids.Nodup := descending.imp Nat.ne_of_gt
  have among : ids ⊆ List.range n := fun m member => List.mem_range.mpr (inside m member)
  simpa using (List.subperm_of_subset distinct among).length_le

theorem documentOrder_of_descending (descending : ids.Pairwise (· > ·)) : documentOrder ids = ids.reverse := by
  have ascending : ids.reverse.Pairwise (· < ·) := List.pairwise_reverse.mpr descending
  rw [← documentOrder_of_ascending ascending]
  exact documentOrder_congr fun m => List.mem_reverse.symm

theorem fromEnd_eval {m : Nat} (inside : m < s.tree.size) (k position size : Nat) :
    (Expr.fromEnd k).eval s ⟨.item (.node m),position,size⟩ =
      .ok (Value.number (Float.ofNat size - Float.ofNat k + Float.ofNat 1)) := by
  have known : Item.Inside s.tree (.node m) := inside
  obtain ⟨focus,found⟩ := focusNode_inside known position size
  have total := place_call "last" .number (fun _ size => Value.count size) s ⟨.item (.node m),position,size⟩
  rw [found] at total
  rw [Expr.fromEnd,Expr.eval,Expr.eval,QueryFunction.last,total,Expr.count,Expr.count,Expr.eval,Expr.eval]
  rfl

-- A predicate that comes to one number at all nodes keeps the one at the position that the number tells.
theorem evalPredicates_place {e : Expr} {x : Float}
    (held : ∀ m ∈ ids, ∀ position, e.eval s ⟨.item (.node m),position,ids.length⟩ = .ok (Value.number x))
    (told : ∀ position, 1 ≤ position → position ≤ ids.length → ((x == Float.ofNat position) = true ↔ position = k)) :
    evalPredicates s [e] (Value.ofNodes ids) = .ok (Value.ofNodes (if 1 ≤ k then ids[k - 1]?.toList else [])) := by
  have listed : (Value.ofNodes ids).length = ids.length := List.length_map ..
  have kept : filterItems (e.eval s) (Value.ofNodes ids) =
      .ok (if 1 ≤ k then (Value.ofNodes ids)[k - 1]?.toList else []) := by
    apply filterFrom_place
    · intro i member position
      obtain ⟨m,among,rfl⟩ := mem_ofNodes.mp member
      rw [listed]
      exact held m among position
    · intro position first last
      exact told position first (by omega)
  rw [evalPredicates,kept]
  change Except.ok _ = _
  rw [Value.ofNodes,List.getElem?_map]
  split
  · cases ids[k - 1]? <;> rfl
  · rfl

theorem evalPredicates_fromStart (positive : 1 ≤ k) (small : ids.length < 2 ^ 53) :
    evalPredicates s [.count k] (Value.ofNodes ids) = .ok (Value.ofNodes ids[k - 1]?.toList) := by
  have place := @evalPredicates_place s ids k (.count k) (Float.ofNat k)
    (fun m member position => by rw [Expr.count,Expr.eval]; rfl)
    fun position first last => counted_beq_iff positive first (by omega)
  rwa [if_pos positive] at place

theorem evalPredicates_fromEnd (positive : 1 ≤ k) (small : ids.length < 2 ^ 53) (inside : ∀ m ∈ ids, m < s.tree.size) :
    evalPredicates s [.fromEnd k] (Value.ofNodes ids.reverse) = .ok (Value.ofNodes ids[k - 1]?.toList) := by
  have told : ∀ position, 1 ≤ position → position ≤ ids.reverse.length →
      ((Float.ofNat ids.reverse.length - Float.ofNat k + Float.ofNat 1 == Float.ofNat position) = true ↔
        position = ids.length + 1 - k) := by
    intro position first last
    rw [List.length_reverse] at last ⊢
    rw [mirrored_beq_iff small positive first last]
    omega
  rw [evalPredicates_place (fun m member position => fromEnd_eval (inside m (List.mem_reverse.mp member)) k position _) told]
  refine congrArg (fun kept => Except.ok (Value.ofNodes kept)) ?_
  by_cases within : k ≤ ids.length
  · have mirrored : ids.length - 1 - (ids.length + 1 - k - 1) = k - 1 := by omega
    rw [if_pos (by omega),List.getElem?_reverse (by omega),mirrored]
  · rw [if_neg (by omega),List.getElem?_eq_none (by omega)]
    rfl

theorem backward_step (shape : s.tree.WellFormed) (small : s.tree.size < 2 ^ 53) (back : axis.goesBack = true)
    (positive : 1 ≤ k) : (Expr.path .focus [.mk axis test [.count k]]).eval s c =
      (Expr.filter (.path .focus [.mk axis test []]) [.fromEnd k]).eval s c := by
  have walks : axis ≠ .attributes := by
    rintro rfl
    cases back
  rw [Expr.eval,focus_step,focus_step,Setting.candidates_eq walks]
  cases stands : s.standing c.focus with
  | error f => rfl
  | ok o =>
    obtain ⟨ordered,inside⟩ := passing_ordered shape axis test (standing_known stands)
    rw [back] at ordered
    have short := (descending_length ordered inside).trans_lt small
    change arrange <$> evalPredicates s [.count k] (Value.ofNodes (s.passing axis test o)) =
      evalPredicates s [.fromEnd k] (arrange (Value.ofNodes (s.passing axis test o)))
    rw [Value.arrange_ofNodes,documentOrder_of_descending ordered,evalPredicates_fromStart positive short,
      evalPredicates_fromEnd positive short inside]
    refine congrArg Except.ok ?_
    have single : (s.passing axis test o)[k - 1]?.toList.Pairwise (· < ·) := by
      cases (s.passing axis test o)[k - 1]? with
      | none => exact .nil
      | some m => exact List.pairwise_singleton _ m
    rw [Value.arrange_ofNodes,documentOrder_of_ascending single]

end Places

-- A step with predicates and the parenthesised step with the same predicates behind it give the same value or
-- the same failure along the axes that do not go back. Along those that do, the `k`-th node is the one at
-- `last() - k + 1` in document order, for all trees whose nodes can be counted with 53 digits, and so for all
-- whose nodes are numbered with 32 bits.
theorem axisOrder_law (s : Setting) (built : s.tree.Built) :
    (∀ l ∈ Registry.builtIn.languages, ∀ read, (l.reading read).function? "last" = some .last) ∧
    (∀ axis test predicates c, axis.goesBack = false →
      (Expr.path .focus [.mk axis test predicates]).eval s c =
        (Expr.filter (.path .focus [.mk axis test []]) predicates).eval s c) ∧
    (s.tree.size < 2 ^ 53 → ∀ axis test k c, axis.goesBack = true → 1 ≤ k →
      (Expr.path .focus [.mk axis test [.count k]]).eval s c =
        (Expr.filter (.path .focus [.mk axis test []]) [.fromEnd k]).eval s c) := by
  refine ⟨?_,?_,?_⟩
  · intro l builtIn read
    exact (function_place builtIn read).2
  · intro axis test predicates c forward
    exact forward_step built.wellFormed forward
  · intro small axis test k c back positive
    exact backward_step built.wellFormed small back positive

-- From the block of the first method: the nearest of those above it is the last in document order.
theorem axisOrder_law_sample :
    let s : Setting := ⟨sample,Java.language⟩
    let c : Context := ⟨.item (.node 2),1,1⟩
    s.tree.Built ∧ s.tree.size < 2 ^ 53 ∧ Axis.ancestor.goesBack = true ∧ Axis.descendant.goesBack = false ∧
      (Expr.path .focus [.mk .descendant .any [.count 1,.count 2]]).eval s c =
        (Expr.filter (.path .focus [.mk .descendant .any []]) [.count 1,.count 2]).eval s c ∧
      (Expr.path .focus [.mk .ancestor .any [.count 1]]).eval s c =
        (Expr.filter (.path .focus [.mk .ancestor .any []]) [.fromEnd 1]).eval s c := by
  intro s c
  obtain ⟨_,forward,backward⟩ := axisOrder_law s sample_built
  have small : s.tree.size < 2 ^ 53 := by decide
  exact ⟨sample_built,small,rfl,rfl,forward .descendant .any _ c rfl,backward small .ancestor .any 1 c rfl (Nat.le_refl 1)⟩

end TreeAudit.Query
