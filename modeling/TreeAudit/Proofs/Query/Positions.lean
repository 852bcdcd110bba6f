import TreeAudit.Proofs.Decimal.Counts
import TreeAudit.Proofs.Query.SelfStep

-- Numbers as predicates. A whole number keeps the item at its position: behind a double slash positions
-- are counted among the children of each node, and behind parentheses over all that was selected.
namespace TreeAudit

open Decimal (Exact count_beq_iff)

namespace Query
variable {s : Setting} {items : List Item} {places : List Place} {k n p size : Nat}

def Expr.count (k : Nat) : Expr := .const (Value.count k)

def QueryFunction.position : QueryFunction := .simple "position" [] .number fun c _ => .ok (Value.count c.position)

def QueryFunction.last : QueryFunction := .simple "last" [] .number fun c _ => .ok (Value.count c.size)

theorem function_place {l : Language} (builtIn : l ∈ Registry.builtIn.languages) (read : PatternReader) :
    (l.reading read).function? "position" = some .position ∧ (l.reading read).function? "last" = some .last := by
  rcases List.mem_cons.mp builtIn with rfl | last
  · exact ⟨rfl,rfl⟩
  · cases List.mem_singleton.mp last
    exact ⟨rfl,rfl⟩

-- A call without arguments that tells of its place looks for the node in focus first, as every call does.
theorem place_call (name : String) (result : ItemType) (told : Nat → Nat → Value) (s : Setting) (c : Context) :
    (Expr.call (.simple name [] result fun site _ => .ok (told site.position site.size)) []).eval s c =
      (fun _ => told c.position c.size) <$> s.focusNode c := by
  rw [Expr.eval,Setting.callSite]
  cases s.focusNode c with
  | error f => rfl
  | ok focus => rfl

theorem focusNode_inside {i : Item} (inside : i.Inside s.tree) (position size : Nat) :
    ∃ focus, s.focusNode ⟨.item i,position,size⟩ = .ok focus := by
  cases i with
  | node id =>
    have known : id < s.tree.size := inside
    exact ⟨some id,by simp [Setting.focusNode,Setting.node,known]⟩
  | atom a => exact ⟨none,rfl⟩

-- A number that is told from all positions but one keeps what stands there. Items are counted from `p` on.
theorem filterFrom_place {holds : Context → Except Failure Value} {x : Float}
    (held : ∀ i ∈ items, ∀ position, holds ⟨.item i,position,size⟩ = .ok (Value.number x))
    (told : ∀ position, p ≤ position → position < p + items.length →
      ((x == Float.ofNat position) = true ↔ position = k)) :
    filterFrom holds size p items = .ok (if p ≤ k then items[k - p]?.toList else []) := by
  induction items generalizing p with
  | nil => simp [filterFrom]
  | cons i items ih =>
    rw [List.length_cons] at told
    obtain ⟨first,later⟩ := List.forall_mem_cons.mp held
    have rest := ih (p := p + 1) later fun position low high => told position (by omega) (by omega)
    have here := told p (Nat.le_refl p) (by omega)
    rw [filterFrom_cons,tries,first p,rest]
    change Except.ok (if (x == Float.ofNat p) = true then _ else _) = _
    refine congrArg Except.ok ?_
    rcases Nat.lt_trichotomy k p with before | rfl | behind
    · rw [if_neg (mt here.mp (by omega)),if_neg (by omega),if_neg (by omega)]
    · rw [if_pos (here.mpr rfl),if_neg (by omega),if_pos (Nat.le_refl k),Nat.sub_self]
      rfl
    · rw [if_neg (mt here.mp (by omega)),if_pos (by omega),if_pos (by omega),
        show k - p = k - (p + 1) + 1 by omega,List.getElem?_cons_succ]

theorem filterFrom_count (exact : Exact k) (nonzero : k ≠ 0) (start : p ≠ 0)
    (range : k < 2 ^ 53 ∨ p + items.length ≤ 2 ^ 53 + 1) :
    filterFrom (fun _ => .ok (Value.count k)) size p items =
      .ok (if p ≤ k then items[k - p]?.toList else []) := by
  apply filterFrom_place (fun i member position => rfl)
  intro position low high
  rw [count_beq_iff exact nonzero (by omega) (by omega)]
  exact eq_comm

theorem evalPredicates_count (exact : Exact k) (nonzero : k ≠ 0)
    (range : k < 2 ^ 53 ∨ items.length ≤ 2 ^ 53) :
    evalPredicates s [Expr.count k] items = .ok items[k - 1]?.toList := by
  have kept := @filterFrom_count items k 1 items.length exact nonzero Nat.one_ne_zero (by omega)
  rw [if_pos (Nat.one_le_iff_ne_zero.mpr nonzero)] at kept
  rw [evalPredicates,filterItems,Expr.count]
  simp only [Expr.eval]
  rw [kept]
  rfl

-- A step along any axis but that of the attributes that keeps from each place what stands at a position.
theorem counted_step {axis : Axis} (walks : axis ≠ .attributes) (test : NodeTest) (exact : Exact k)
    (nonzero : k ≠ 0) (range : k < 2 ^ 53 ∨ ∀ p o, s.standing p = .ok o → (s.passing axis test o).length ≤ 2 ^ 53) :
    (Step.mk axis test [Expr.count k]).eval s places = (fun os => placesAfter false
      (Value.ofNodes (os.flatMap fun o => (s.passing axis test o)[k - 1]?.toList))) <$>
        places.mapM s.standing := by
  have each : ∀ p, (do evalPredicates s [Expr.count k] (← s.candidates axis test p)) =
      (fun o => Value.ofNodes (s.passing axis test o)[k - 1]?.toList) <$> s.standing p := by
    intro p
    rw [Setting.candidates_eq walks]
    cases stands : s.standing p with
    | error f => rfl
    | ok o =>
      have listed : (Value.ofNodes (s.passing axis test o)).length = (s.passing axis test o).length :=
        List.length_map ..
      change evalPredicates s [Expr.count k] (Value.ofNodes (s.passing axis test o)) = _
      rw [evalPredicates_count exact nonzero (range.imp_right fun all => listed ▸ all p o stands),Value.ofNodes,
        List.getElem?_map,Option.toList_map]
      rfl
  have stays : (Step.mk axis test [Expr.count k]).keepsDocument places = false := by
    simp [Step.keepsDocument,Step.predicates]
  rw [Step.eval,funext each,mapM_functor,stays]
  cases places.mapM s.standing with
  | error f => rfl
  | ok os =>
    refine congrArg (fun items => Except.ok (placesAfter _ items)) ?_
    rw [Value.ofNodes,List.map_flatMap,List.flatMap]
    rfl

end Query

namespace Tree
open Query
variable {t : Tree} {test : NodeTest} {s : Setting} {l : List Nat} {m n j : Nat}

-- In an ascending list a member stands behind those that are less, so their number is its place.
theorem getElem?_of_ascending (ascending : l.Pairwise (· < ·)) :
    l[j]? = some n ↔ n ∈ l ∧ (l.filter (· < n)).length = j := by
  induction l generalizing j with
  | nil => simp
  | cons x l ih =>
    obtain ⟨least,rest⟩ := List.pairwise_cons.mp ascending
    have later : l[j]? = some n → x < n := fun found => least n (List.mem_of_getElem? found)
    rcases Nat.lt_trichotomy x n with less | rfl | greater
    · have other : n ≠ x := Nat.ne_of_gt less
      have kept : (x :: l).filter (· < n) = x :: l.filter (· < n) :=
        List.filter_cons_of_pos (decide_eq_true less)
      rw [kept,List.length_cons,List.mem_cons,or_iff_right other]
      cases j with
      | zero => simp [Ne.symm other]
      | succ j => rw [List.getElem?_cons_succ,ih rest,Nat.add_right_cancel_iff]
    · have none : l.filter (· < x) = [] :=
        List.filter_eq_nil_iff.mpr fun y member => by simpa using Nat.le_of_lt (least y member)
      rw [List.filter_cons_of_neg (by simp),none]
      cases j with
      | zero => simp
      | succ j =>
        rw [List.getElem?_cons_succ]
        refine ⟨fun found => ?_,fun both => by cases both.2⟩
        exact absurd (least x (List.mem_of_getElem? found)) (Nat.lt_irrefl x)
    · have outside : n ∉ x :: l := by
        intro member
        rcases List.mem_cons.mp member with rfl | among
        · exact Nat.lt_irrefl n greater
        · exact Nat.lt_asymm greater (least n among)
      exact ⟨fun found => absurd (List.mem_of_getElem? found) outside,fun both => absurd both.1 outside⟩

-- The nodes that pass a test, in document order.
def matching (t : Tree) (test : NodeTest) : List Nat :=
  (List.range t.size).filter fun n => test.accepts (t.name n)

-- How many of the siblings before a node pass; the root has none.
def matchingBefore (t : Tree) (test : NodeTest) (n : Nat) : Nat :=
  (t.precedingSiblings n).countP fun m => test.accepts (t.name m)

theorem mem_matching : n ∈ t.matching test ↔ n < t.size ∧ test.accepts (t.name n) = true := by
  rw [matching,List.mem_filter,List.mem_range]

theorem matching_ascending (t : Tree) (test : NodeTest) : (t.matching test).Pairwise (· < ·) :=
  List.pairwise_lt_range.filter _

-- A node that has no parent is the root, and every other stands behind its parent.
theorem orphan_iff (shape : t.WellFormed) : n = root ↔ n < t.size ∧ t.parent n = none := by
  constructor
  · rintro rfl
    exact ⟨shape.rooted,shape.top⟩
  · rintro ⟨known,orphan⟩
    by_contra lower
    obtain ⟨p,link,_⟩ := shape.linked n (Nat.pos_of_ne_zero lower) known
    cases orphan.symm.trans link

theorem matchingBefore_eq (shape : t.WellFormed) (test : NodeTest) (inside : n < t.size) :
    t.matchingBefore test n =
      ((t.matching test).filter fun m => m < n ∧ t.parent m = t.parent n).length := by
  cases up : t.parent n with
  | none =>
    obtain rfl := (orphan_iff shape).mpr ⟨inside,up⟩
    have none : t.precedingSiblings root = [] := by rw [precedingSiblings,up]
    have before : (t.matching test).filter (fun m => m < root ∧ t.parent m = Option.none) = [] :=
      List.filter_eq_nil_iff.mpr fun m _ => by simp [root]
    rw [matchingBefore,none,before]
    rfl
  | some p =>
    have link : t.IsParent p n := up
    have known : p < t.size := Nat.lt_trans (shape.parent_lt link) inside
    rw [matchingBefore,precedingSiblings_eq shape.toPreordered link,List.countP_reverse,List.countP_eq_length_filter,
      shape.listed p known,matching,List.filter_filter,List.filter_filter,List.filter_filter]
    refine congrArg List.length (List.filter_congr fun m _ => ?_)
    simp only [isChild,Bool.decide_and,Bool.and_comm,Bool.and_left_comm,Bool.and_assoc]

theorem descendants_root (shape : t.WellFormed) : t.descendantsOrSelf root = List.range t.size := by
  rw [descendantsOrSelf_stretch shape.toPreordered (Stretch.root shape),List.range_eq_range']
  rfl

end Tree

namespace Query
variable {s : Setting} {test : NodeTest} {k n : Nat} {c : Context}

theorem passing_descendant (shape : s.tree.WellFormed) (test : NodeTest) :
    s.passing .descendant test none = s.tree.matching test := by
  rw [Setting.passing,Setting.reached,Setting.documentNodes,Tree.descendants_root shape,Tree.matching]

-- A node is a child of its parent, and the root is the one child of the document.
theorem passing_child (shape : s.tree.WellFormed) (test : NodeTest) {o : Option Nat}
    (inside : ∀ id : Nat, o = some id → id < s.tree.size) :
    s.passing .child test o = (s.tree.matching test).filter fun n => s.tree.parent n = o := by
  cases o with
  | some id =>
    rw [Setting.passing,Setting.reached,Setting.axisNodes,shape.listed id (inside id rfl),Tree.matching,
      List.filter_filter,List.filter_filter]
    exact List.filter_congr fun n _ => Bool.and_comm _ _
  | none =>
    have single : s.passing .child test none = [Tree.root].filter fun n => test.accepts (s.tree.name n) := rfl
    have ascending : (s.passing .child test none).Pairwise (· < ·) :=
      single ▸ (List.pairwise_singleton _ _).filter _
    refine ascending.eq_of_mem_iff ((s.tree.matching_ascending test).filter _) fun n => ?_
    rw [single,List.mem_filter,List.mem_singleton,List.mem_filter,Tree.mem_matching,decide_eq_true_eq,
      Tree.orphan_iff shape]
    tauto

theorem passing_length (shape : s.tree.WellFormed) (test : NodeTest) {o : Option Nat}
    (inside : ∀ id : Nat, o = some id → id < s.tree.size) :
    (s.passing .child test o).length ≤ s.tree.size := by
  rw [passing_child shape test inside]
  refine (List.length_filter_le _ _).trans ((List.length_filter_le _ _).trans ?_)
  exact Nat.le_of_eq List.length_range

-- What stands at a position among the children of a place has one less before it.
theorem passing_at (shape : s.tree.WellFormed) (nonzero : k ≠ 0) {o : Option Nat}
    (inside : ∀ id : Nat, o = some id → id < s.tree.size) :
    n ∈ (s.passing .child test o)[k - 1]?.toList ↔
      n ∈ s.tree.matching test ∧ s.tree.parent n = o ∧ s.tree.matchingBefore test n + 1 = k := by
  rw [Option.mem_toList,passing_child shape test inside,
    Tree.getElem?_of_ascending ((s.tree.matching_ascending test).filter _),List.mem_filter,decide_eq_true_eq,
    and_assoc]
  refine and_congr_right fun passes => and_congr_right fun link => ?_
  rw [List.filter_filter,Tree.matchingBefore_eq shape test (Tree.mem_matching.mp passes).1,link]
  simp only [Bool.decide_and]
  omega

theorem standing_known {p : Place} {o : Option Nat} (stands : s.standing p = .ok o) :
    ∀ id : Nat, o = some id → id < s.tree.size := by
  have single : [p].mapM s.standing = .ok [o] := by
    rw [List.mapM_cons,stands]
    rfl
  exact fun id same => standing_inside single id (same ▸ List.mem_singleton_self _)

theorem items_after (ids : List Nat) : (placesAfter false (Value.ofNodes ids)).filterMap Place.item? =
    Value.ofNodes (documentOrder ids) := by
  rw [placesAfter,Value.arrange_ofNodes]
  exact items_of_places _

theorem downward_document (shape : s.tree.WellFormed) : Step.downward.eval s [.document] =
    .ok (placesAfter true (Value.ofNodes (List.range s.tree.size))) := by
  have all : s.passing .descendantOrSelf .any none = List.range s.tree.size := by
    rw [Setting.passing,Setting.reached,Setting.documentNodes,Tree.descendants_root shape]
    exact List.filter_eq_self.mpr fun _ _ => rfl
  rw [Step.downward,bare_step (show Axis.descendantOrSelf ≠ .attributes by decide)]
  change Except.ok (placesAfter true (Value.ofNodes (s.passing .descendantOrSelf .any none ++ []))) = _
  rw [all,List.append_nil]

-- Behind a double slash: the nodes with one less than `k` among the siblings before them.
theorem eval_counted (shape : s.tree.WellFormed) (test : NodeTest) (exact : Exact k) (nonzero : k ≠ 0)
    (range : k < 2 ^ 53 ∨ s.tree.size ≤ 2 ^ 53) (c : Context) :
    (Expr.path .document [Step.downward,.mk .child test [Expr.count k]]).eval s c =
      .ok (Value.ofNodes ((s.tree.matching test).filter fun n => s.tree.matchingBefore test n + 1 = k)) := by
  have small : k < 2 ^ 53 ∨ ∀ p o, s.standing p = .ok o → (s.passing .child test o).length ≤ 2 ^ 53 :=
    range.imp_right fun bound p o stands =>
      (passing_length shape test (standing_known stands)).trans bound
  have inside : ∀ id ∈ List.range s.tree.size, id < s.tree.size := fun id => List.mem_range.mp
  have ordered := documentOrder_of_ascending (List.pairwise_lt_range (n := s.tree.size))
  have next := @counted_step s (placesAfter true (Value.ofNodes (List.range s.tree.size))) k .child
    (by decide) test exact nonzero small
  rw [standing_after inside,if_pos rfl,ordered] at next
  have whole : (Expr.path .document [Step.downward,.mk .child test [Expr.count k]]).eval s c =
      .ok ((placesAfter false (Value.ofNodes (([none] ++ (List.range s.tree.size).map some).flatMap
        fun o => (s.passing .child test o)[k - 1]?.toList))).filterMap Place.item?) := by
    rw [path_eval (by rw [Origin.places]),evalSteps,downward_document shape]
    change (evalSteps s [.mk .child test [Expr.count k]] _ >>= _) = _
    rw [evalSteps,next]
    rfl
  rw [whole,items_after]
  refine congrArg (fun ids => Except.ok (Value.ofNodes ids)) ?_
  refine (documentOrder_congr fun n => ?_).trans
    (documentOrder_of_ascending ((s.tree.matching_ascending test).filter _))
  -- A node is selected from the place that has it as a child, and from no other.
  have places : ∀ o ∈ [none] ++ (List.range s.tree.size).map some, ∀ id : Nat, o = some id → id < s.tree.size := by
    rintro o member id rfl
    obtain ⟨known,among,same⟩ := List.mem_map.mp ((List.mem_append.mp member).resolve_left (by simp))
    exact Option.some.inj same ▸ List.mem_range.mp among
  rw [List.mem_flatMap,List.mem_filter,decide_eq_true_eq]
  constructor
  · rintro ⟨o,member,found⟩
    obtain ⟨passes,_,position⟩ := (passing_at shape nonzero (places o member)).mp found
    exact ⟨passes,position⟩
  · rintro ⟨passes,position⟩
    have member : s.tree.parent n ∈ [none] ++ (List.range s.tree.size).map some := by
      cases up : s.tree.parent n with
      | none => exact List.mem_append_left _ (List.mem_singleton_self _)
      | some p =>
        have known : p < s.tree.size :=
          Nat.lt_trans (shape.parent_lt up) (Tree.parent_inside up)
        exact List.mem_append_right _ (List.mem_map_of_mem (List.mem_range.mpr known))
    exact ⟨_,member,(passing_at shape nonzero (places _ member)).mpr ⟨passes,rfl,position⟩⟩

-- Behind parentheses: the one node at the position among all.
theorem eval_counted_whole (shape : s.tree.WellFormed) (test : NodeTest) (exact : Exact k) (nonzero : k ≠ 0)
    (range : k < 2 ^ 53 ∨ s.tree.size ≤ 2 ^ 53) (c : Context) :
    (Expr.filter (.path .document [.mk .descendant test []]) [Expr.count k]).eval s c =
      .ok (Value.ofNodes (s.tree.matching test)[k - 1]?.toList) := by
  have listed : (Expr.path .document [.mk .descendant test []]).eval s c =
      .ok (Value.ofNodes (s.tree.matching test)) :=
    document_step (by decide) rfl (by rw [Origin.places]) (passing_descendant shape test)
      (s.tree.matching_ascending test)
  have bound : (Value.ofNodes (s.tree.matching test)).length ≤ s.tree.size := by
    rw [Value.ofNodes,List.length_map]
    exact (List.length_filter_le _ _).trans (Nat.le_of_eq List.length_range)
  rw [Expr.eval,listed]
  change evalPredicates s [Expr.count k] (Value.ofNodes (s.tree.matching test)) = _
  rw [evalPredicates_count exact nonzero (range.imp_right bound.trans),Value.ofNodes,List.getElem?_map,
    Option.toList_map]
  rfl

end Query
end TreeAudit
