import TreeAudit.Proofs.Query.Axes
import TreeAudit.Proofs.Query.DocumentOrder
import TreeAudit.Proofs.Query.Parts
import TreeAudit.Proofs.Query.Typing

-- What evaluation keeps. The places between two steps are orderly, predicates only leave items out, and
-- so every value is orderly; failures are among those allowed, whichever set of failures that is.
namespace TreeAudit.Query

def Place.Inside (t : Tree) : Place → Prop
  | .document => True
  | .item i => i.Inside t

-- What evaluation needs of one expression: constants without nodes, and calls of functions that are
-- given what they declare and answer as they declare, with single values.
def Expr.Dependable (allowed : Failure → Prop) : Expr → Prop
  | .const value => ∀ i ∈ value, i.isNode = false
  | .call f args =>
    f.parameters.length = args.length ∧ f.parameters.all SequenceType.settled = true ∧
      f.result.item.isAtomic = true ∧ f.Answers allowed
  | _ => True

def Settles (allowed : Failure → Prop) (s : Setting) (e : Expr) : Prop :=
  ∀ c : Context, c.focus.Inside s.tree → Ends (Value.Orderly s.tree) allowed (e.eval s c)

variable {allowed : Failure → Prop} {s : Setting} {t : Tree} {e l r : Expr} {c : Context}
  {items value : Value} {places : List Place} {predicates args : List Expr} {n m size : Nat}

theorem documentNodes_inside (shape : s.tree.WellFormed) (axis : Axis) :
    ∀ m ∈ s.documentNodes axis, m < s.tree.size := by
  have below : ∀ m : Nat, m ∈ s.tree.descendantsOrSelf Tree.root → m < s.tree.size := by
    intro m member
    have under := (Tree.mem_descendantsOrSelf shape.toPreordered shape.rooted).mp member
    exact Tree.AtOrAbove.inside under shape.rooted
  intro m member
  unfold Setting.documentNodes at member
  split at member
  · exact List.mem_singleton.mp member ▸ shape.rooted
  · exact below m member
  · exact below m member
  · cases member

-- A step gives single values along the attributes and nodes along every other axis.
theorem candidates_ends (tolerant : Tolerant allowed) (shape : s.tree.WellFormed) (axis : Axis)
    (test : NodeTest) (p : Place) (inside : p.Inside s.tree) :
    Ends (fun items => ∀ i ∈ items, i.isNode = !decide (axis = .attributes) ∧ i.Inside s.tree) allowed
      (s.candidates axis test p) := by
  have passing : ∀ ids : List Nat, (axis = .attributes → ids = []) → (∀ m ∈ ids, m < s.tree.size) →
      ∀ i ∈ (ids.filter fun m => test.accepts (s.tree.name m)).map Item.node,
        i.isNode = !decide (axis = .attributes) ∧ i.Inside s.tree := by
    intro ids none known i member
    obtain ⟨m,kept,rfl⟩ := List.mem_map.mp member
    have among := (List.mem_filter.mp kept).1
    have other : axis ≠ .attributes := by
      intro same
      rw [none same] at among
      cases among
    exact ⟨by rw [decide_eq_false other]; rfl,known m among⟩
  match p with
  | .document =>
    exact passing _ (fun same => same ▸ rfl) (documentNodes_inside shape axis)
  | .item (.node id) =>
    have known : id < s.tree.size := inside
    rw [Setting.candidates,Setting.node,if_pos known]
    change Ends _ _ (if axis = .attributes then _ else _)
    split
    · rename_i same
      intro i member
      obtain ⟨a,_,rfl⟩ := List.mem_map.mp member
      exact ⟨by rw [decide_eq_true same]; rfl,trivial⟩
    · rename_i other
      refine passing _ (fun same => absurd same other) fun m member => ?_
      exact ((Setting.mem_axisNodes shape.toPreordered known axis).mp member).inside
        shape.toPreordered known
  | .item (.atom a) => exact tolerant _ rfl

-- A step that can be taken starts inside the tree.
theorem candidates_known (shape : s.tree.WellFormed) {axis : Axis} {test : NodeTest} {p : Place}
    (given : s.candidates axis test p = .ok items) :
    ∀ i ∈ items, i.isNode = !decide (axis = .attributes) ∧ i.Inside s.tree := by
  have start : p.Inside s.tree := by
    match p with
    | .document => trivial
    | .item (.atom a) => trivial
    | .item (.node id) =>
      by_contra outside
      have unknown : ¬id < s.tree.size := outside
      rw [Setting.candidates,Setting.node,if_neg unknown] at given
      cases given
  have any : Tolerant fun _ => True := fun _ _ => trivial
  exact (candidates_ends any shape axis test p start).value given

theorem keeps_ends (tolerant : Tolerant allowed) (position : Nat) (value : Value) :
    Ends (fun _ => True) allowed (keeps position value) := by
  unfold keeps
  split
  · trivial
  · exact condition_ends tolerant _

-- What a filter makes of an item at a position.
def tries (holds : Context → Except Failure Value) (size : Nat) (entry : Item × Nat) : Except Failure Bool :=
  holds ⟨.item entry.1,entry.2,size⟩ >>= keeps entry.2

theorem filterFrom_cons {holds : Context → Except Failure Value} {i : Item} {position : Nat} :
    filterFrom holds size position (i :: items) = (tries holds size (i,position) >>= fun keep =>
      filterFrom holds size (position + 1) items >>= fun rest => pure (if keep then i :: rest else rest)) := by
  rw [filterFrom,tries,bind_assoc]

theorem filterFrom_ends (tolerant : Tolerant allowed) {holds : Context → Except Failure Value}
    (each : ∀ i ∈ items, ∀ position, Ends (fun _ => True) allowed (holds ⟨.item i,position,size⟩))
    (position : Nat) :
    Ends (fun kept => kept.Sublist items) allowed (filterFrom holds size position items) := by
  induction items generalizing position with
  | nil => exact List.Sublist.refl _
  | cons i items ih =>
    rw [filterFrom]
    refine (each i List.mem_cons_self position).bind fun value _ => ?_
    refine (keeps_ends tolerant position value).bind fun keep _ => ?_
    refine (ih (fun j member => each j (List.mem_cons_of_mem _ member)) _).bind fun rest short => ?_
    cases keep with
    | true => exact short.cons_cons i
    | false => exact short.cons i

theorem evalPredicates_ends (tolerant : Tolerant allowed)
    (settle : ∀ p ∈ predicates, Settles allowed s p) (inside : ∀ i ∈ items, i.Inside s.tree) :
    Ends (fun kept => kept.Sublist items) allowed (evalPredicates s predicates items) := by
  induction predicates generalizing items with
  | nil =>
    rw [evalPredicates]
    exact List.Sublist.refl _
  | cons p predicates ih =>
    obtain ⟨first,later⟩ := List.forall_mem_cons.mp settle
    rw [evalPredicates]
    refine (filterFrom_ends tolerant (fun i member position => ?_) 1).bind fun kept short => ?_
    · exact (first ⟨.item i,position,_⟩ (inside i member)).mono fun _ _ => trivial
    · refine (ih later fun i member => inside i (short.subset member)).mono fun last shorter => ?_
      exact shorter.trans short

-- The places between two steps, as far as they are items.
def Placed (t : Tree) (places : List Place) : Prop := Value.Orderly t (places.filterMap Place.item?)

theorem Placed.inside (placed : Placed t places) : ∀ p ∈ places, p.Inside t := by
  intro p member
  cases p with
  | document => trivial
  | item i => exact Value.Orderly.inside placed i (List.mem_filterMap.mpr ⟨_,member,rfl⟩)

theorem items_of_places (items : Value) : (items.map Place.item).filterMap Place.item? = items := by
  rw [List.filterMap_map]
  exact List.filterMap_some

theorem step_ends (tolerant : Tolerant allowed) (shape : s.tree.WellFormed) (step : Step)
    (settle : ∀ p ∈ step.predicates, Settles allowed s p) (placed : Placed s.tree places) :
    Ends (Placed s.tree) allowed (step.eval s places) := by
  obtain ⟨axis,test,predicates⟩ := step
  rw [Step.eval]
  have each : ∀ p ∈ places, Ends (fun items => ∀ i ∈ items, i.isNode = !decide (axis = .attributes) ∧
      i.Inside s.tree) allowed (do evalPredicates s predicates (← s.candidates axis test p)) := by
    intro p member
    refine (candidates_ends tolerant shape axis test p (placed.inside p member)).bind fun items known => ?_
    refine (evalPredicates_ends tolerant settle fun i among => (known i among).2).mono fun kept short => ?_
    exact fun i among => known i (short.subset among)
  refine (Ends.mapM places each).bind fun selected alike => ?_
  have orderly : Value.Orderly s.tree (arrange selected.flatten) := by
    refine Value.arrange_orderly (!decide (axis = .attributes)) fun i member => ?_
    obtain ⟨items,among,there⟩ := List.mem_flatten.mp member
    exact alike items among i there
  change Placed s.tree (placesAfter _ _)
  unfold Placed placesAfter
  rw [List.filterMap_append,items_of_places]
  split
  · exact orderly
  · exact orderly

theorem evalSteps_ends (tolerant : Tolerant allowed) (shape : s.tree.WellFormed) (steps : List Step)
    (settle : ∀ step ∈ steps, ∀ p ∈ step.predicates, Settles allowed s p)
    (placed : Placed s.tree places) : Ends (Placed s.tree) allowed (evalSteps s steps places) := by
  induction steps generalizing places with
  | nil =>
    rw [evalSteps]
    exact placed
  | cons step steps ih =>
    obtain ⟨first,later⟩ := List.forall_mem_cons.mp settle
    rw [evalSteps]
    exact (step_ends tolerant shape step first placed).bind fun next kept => ih later kept

theorem operand_ends (tolerant : Tolerant allowed) (value : Value) :
    Ends (fun _ => True) allowed (operand t value) := by
  unfold operand
  split
  · trivial
  · trivial
  · exact tolerant _ rfl

theorem unite_ends (tolerant : Tolerant allowed) (left : items.Orderly t) (right : value.Orderly t) :
    Ends (Value.Orderly t) allowed (unite items value) := by
  unfold unite
  split
  · refine Value.documentOrder_orderly fun id member => ?_
    rcases List.mem_append.mp member with one | two
    · exact left.inside _ (Value.mem_nodeIds.mp one)
    · exact right.inside _ (Value.mem_nodeIds.mp two)
  · exact tolerant _ rfl

theorem callSite_setting {f : QueryFunction} {site : CallSite} (place : s.callSite f c = .ok site) :
    site.tree = s.tree ∧ site.metrics = s.language.metrics := by
  obtain ⟨focus,_,behind⟩ := bind_ok place
  split at behind
  · cases behind
  · cases behind
    exact ⟨rfl,rfl⟩

theorem callSite_ends (tolerant : Tolerant allowed) (f : QueryFunction)
    (inside : c.focus.Inside s.tree) : Ends (fun _ => True) allowed (s.callSite f c) := by
  have focused : Ends (fun _ => True) allowed (s.focusNode c) := by
    unfold Setting.focusNode
    split
    · rename_i id stands
      rw [stands] at inside
      have known : id < s.tree.size := inside
      rw [Setting.node,if_pos known]
      trivial
    · trivial
  refine focused.bind fun focus _ => ?_
  split
  · exact tolerant _ rfl
  · trivial

theorem evalArgs_ends (tolerant : Tolerant allowed) (name : String) (index : Nat)
    {types : List SequenceType} (counted : types.length = args.length)
    (settled : types.all SequenceType.settled = true)
    (each : ∀ a ∈ args, Ends (fun _ => True) allowed (a.eval s c)) :
    Ends (List.Forall₂ SequenceType.Holds types) allowed (evalArgs s name index types args c) := by
  induction types generalizing args index with
  | nil =>
    rw [evalArgs]
    · exact .nil
    · intro _ _ _ _ none
      cases none
  | cons ty types ih =>
    cases args with
    | nil => cases counted
    | cons a args =>
      obtain ⟨first,later⟩ := List.forall_mem_cons.mp each
      rw [List.all_cons,Bool.and_eq_true] at settled
      rw [evalArgs]
      refine first.bind fun given _ => ?_
      refine (convert_ends tolerant settled.1 index given).bind fun converted holds => ?_
      refine (ih (index + 1) (Nat.succ.inj counted) settled.2 later).bind fun rest all => ?_
      exact .cons holds all

theorem holds_orderly {ty : SequenceType} (atomic : ty.item.isAtomic = true) (holds : ty.Holds value) :
    value.Orderly t := by
  refine .inl fun i member => ?_
  have fits := holds.2 i member
  revert atomic fits
  cases ty.item with
  | string => rintro _ ⟨s,rfl⟩; rfl
  | number => rintro _ ⟨x,rfl⟩; rfl
  | boolean => rintro _ ⟨b,rfl⟩; rfl
  | node | any =>
    intro atomic
    cases atomic

theorem start_ends {origin : Origin} (settle : ∀ p ∈ origin.parts, Settles allowed s p)
    (inside : c.focus.Inside s.tree) : Ends (Placed s.tree) allowed (origin.places s c) := by
  cases origin with
  | document =>
    rw [Origin.places]
    exact .empty
  | focus =>
    rw [Origin.places]
    change Placed s.tree [c.focus]
    revert inside
    cases c.focus with
    | document => exact fun _ => .empty
    | item i => exact .single i
  | value e =>
    rw [Origin.places]
    refine (settle e (List.mem_singleton.mpr rfl) c inside).bind fun items orderly => ?_
    change Placed s.tree (items.map Place.item)
    unfold Placed
    rw [items_of_places]
    exact orderly

theorem condition_then (tolerant : Tolerant allowed) {g : Bool → Except Failure Value}
    (settle : Ends (Value.Orderly t) allowed x) (next : ∀ b, Ends (Value.Orderly t) allowed (g b)) :
    Ends (Value.Orderly t) allowed (x >>= fun value => value.condition >>= g) :=
  settle.bind fun value _ => (condition_ends tolerant value).bind fun b _ => next b

-- One case for each form of expression; the parts are known to settle.
theorem eval_step (tolerant : Tolerant allowed) (shape : s.tree.WellFormed)
    (dependable : e.Dependable allowed) (settle : ∀ p ∈ e.parts, Settles allowed s p) :
    Settles allowed s e := by
  intro c inside
  have answer : ∀ b : Bool, Value.Orderly s.tree (Value.truth b) := fun b => .atom (.truth b)
  have figure : ∀ x : Float, Value.Orderly s.tree (Value.number x) := fun x => .atom (.number x)
  cases e with
  | const value =>
    rw [Expr.eval]
    exact .inl dependable
  | focus =>
    rw [Expr.eval]
    change Value.Orderly s.tree c.focus.item?.toList
    revert inside
    cases c.focus with
    | document => exact fun _ => .empty
    | item i => exact .single i
  | or l r =>
    obtain ⟨left,right⟩ := Expr.forall_pair settle
    rw [Expr.eval]
    refine condition_then tolerant (left c inside) fun b => ?_
    cases b with
    | true => exact answer true
    | false => exact condition_then tolerant (right c inside) answer
  | and l r =>
    obtain ⟨left,right⟩ := Expr.forall_pair settle
    rw [Expr.eval]
    refine condition_then tolerant (left c inside) fun b => ?_
    cases b with
    | true => exact condition_then tolerant (right c inside) answer
    | false => exact answer false
  | compare op l r =>
    obtain ⟨left,right⟩ := Expr.forall_pair settle
    rw [Expr.eval]
    refine (left c inside).bind fun x _ => (right c inside).bind fun y _ => ?_
    exact answer _
  | arith op l r =>
    obtain ⟨left,right⟩ := Expr.forall_pair settle
    rw [Expr.eval]
    refine (left c inside).bind fun x _ => (operand_ends tolerant x).bind fun x _ => ?_
    refine (right c inside).bind fun y _ => (operand_ends tolerant y).bind fun y _ => ?_
    split
    · exact figure _
    · exact .empty
  | neg e =>
    rw [Expr.eval]
    refine (settle e (List.mem_singleton.mpr rfl) c inside).bind fun x _ => ?_
    refine (operand_ends tolerant x).bind fun x _ => ?_
    cases x with
    | some x => exact figure _
    | none => exact .empty
  | union l r =>
    obtain ⟨left,right⟩ := Expr.forall_pair settle
    rw [Expr.eval]
    refine (left c inside).bind fun x one => (right c inside).bind fun y two => ?_
    exact unite_ends tolerant one two
  | filter e predicates =>
    obtain ⟨first,later⟩ := List.forall_mem_cons.mp settle
    rw [Expr.eval]
    refine (first c inside).bind fun items orderly => ?_
    exact (evalPredicates_ends tolerant later orderly.inside).mono fun kept short => orderly.sublist short
  | path origin steps =>
    obtain ⟨first,later⟩ := List.forall_mem_append.mp settle
    rw [Expr.eval]
    refine (start_ends first inside).bind fun places placed => ?_
    refine (evalSteps_ends tolerant shape steps (fun step member p there => ?_) placed).bind fun last kept => kept
    exact later p (List.mem_flatMap.mpr ⟨step,member,there⟩)
  | call f args =>
    obtain ⟨counted,settled,atomic,answers⟩ := dependable
    rw [Expr.eval]
    refine (callSite_ends tolerant f inside).bind fun site _ => ?_
    have each : ∀ a ∈ args, Ends (fun _ => True) allowed (a.eval s c) :=
      fun a member => (settle a member c inside).mono fun _ _ => trivial
    refine (evalArgs_ends tolerant f.name 0 counted settled each).bind fun values typed => ?_
    exact (answers site values typed).mono fun value holds => holds_orderly atomic holds

-- By induction over the parts, one step for each expression.
theorem eval_orderly (tolerant : Tolerant allowed) (shape : s.tree.WellFormed)
    (dependable : e.Throughout (Expr.Dependable allowed)) : Settles allowed s e := by
  induction e using Expr.induct_parts with
  | whole e ih =>
    refine eval_step tolerant shape dependable.here fun p member => ?_
    exact ih p member (dependable.part member)

end TreeAudit.Query
