import TreeAudit.Proofs.Query.Reading
import TreeAudit.Proofs.Query.Typing
import TreeAudit.Query.Evaluate

-- Expressions that do not ask where they stand. An expression that calls neither `position` nor `last`, but
-- in the predicates inside it, which are tried at places of their own, comes to the same at every place.
namespace TreeAudit.Query

mutual

def Expr.placeless : Expr → Bool
  | .const _ | .focus => true
  | .or l r | .and l r | .compare _ l r | .arith _ l r | .union l r => l.placeless && r.placeless
  | .neg e => e.placeless
  | .filter e _ => e.placeless
  | .path origin _ => origin.placeless
  | .call f args => f.name ≠ "position" && f.name ≠ "last" && allPlaceless args

def Origin.placeless : Origin → Bool
  | .value e => e.placeless
  | _ => true

def allPlaceless : List Expr → Bool
  | [] => true
  | e :: es => e.placeless && allPlaceless es

end

-- A function that answers alike at every position.
def QueryFunction.Placeless (f : QueryFunction) : Prop :=
  ∀ site values position size, f.call { site with position, size } values = f.call site values

-- An expression in which only `position` and `last` ask for the place of a call.
def Expr.PlainCall : Expr → Prop
  | .call f _ => f.name ≠ "position" → f.name ≠ "last" → f.Placeless
  | _ => True

variable {s : Setting} {e : Expr} {es : List Expr} {c d : Context} {l : Language} {f : QueryFunction}
  {bindings : List (String × Value)} {constant : Value → Prop}

theorem allPlaceless_iff : allPlaceless es = true ↔ ∀ e ∈ es, e.placeless = true := by
  induction es with
  | nil => simp [allPlaceless]
  | cons e es ih => simp [allPlaceless,ih]

theorem coreFunctions_placeless (read : PatternReader) :
    ∀ f ∈ coreFunctions read, f.name ≠ "position" → f.name ≠ "last" → f.Placeless := by
  simp only [coreFunctions,List.forall_mem_cons,List.not_mem_nil,false_implies,implies_true,and_true]
  refine ⟨?_,?_,?_,?_,?_,?_,?_,?_,?_,?_,?_,?_,?_,?_,?_,?_,?_,?_,?_,?_⟩
  case refine_5 => exact fun named => absurd rfl named
  case refine_6 => exact fun _ named => absurd rfl named
  all_goals exact fun _ _ site values position size => rfl

theorem function_placeless (builtIn : l ∈ Registry.builtIn.languages) (member : f ∈ l.functions) : f.Placeless := by
  intro site values position size
  rcases List.mem_cons.mp builtIn with rfl | last
  · rcases List.mem_cons.mp member with rfl | second
    · rfl
    · rw [List.mem_singleton.mp second]
      rfl
  · cases List.mem_singleton.mp last
    rw [List.mem_singleton.mp member]
    rfl

theorem plainCalls_of_compiled (builtIn : l ∈ Registry.builtIn.languages) (read : PatternReader)
    (compiled : e.Compiled ⟨l.reading read,bindings⟩ constant) : e.Throughout Expr.PlainCall := by
  refine compiled.mono fun p sound => ?_
  cases p with
  | call f args =>
    obtain ⟨name,called⟩ := sound
    obtain ⟨g,same,found,_⟩ := call_sound called
    cases same
    intro notPosition notLast
    rcases function_mem found with own | core
    · exact function_placeless builtIn own
    · exact coreFunctions_placeless read f core notPosition notLast
  | _ => trivial

theorem focusNode_same (same : c.focus = d.focus) : s.focusNode c = s.focusNode d := by
  rw [Setting.focusNode,Setting.focusNode,same]

-- The place of a call is all that the position of its context decides.
theorem callSite_same (same : c.focus = d.focus) :
    s.callSite f c = (fun site => { site with position := c.position, size := c.size }) <$> s.callSite f d := by
  rw [Setting.callSite,Setting.callSite,focusNode_same same]
  cases s.focusNode d with
  | error failure => rfl
  | ok focus =>
    change (if _ then _ else _) = _ <$> (if _ then _ else _)
    split
    · rfl
    · rfl

theorem evalArgs_same (name : String) (each : ∀ e ∈ es, e.eval s c = e.eval s d) (index : Nat)
    (types : List SequenceType) : evalArgs s name index types es c = evalArgs s name index types es d := by
  induction es generalizing index types with
  | nil => cases types <;> simp [evalArgs]
  | cons e es ih =>
    obtain ⟨first,later⟩ := List.forall_mem_cons.mp each
    cases types with
    | nil => simp [evalArgs]
    | cons ty types => simp only [evalArgs,first,ih later]

theorem places_same {origin : Origin} (same : c.focus = d.focus)
    (each : ∀ e ∈ origin.parts, e.eval s c = e.eval s d) : origin.places s c = origin.places s d := by
  cases origin with
  | document => simp only [Origin.places]
  | focus => simp only [Origin.places,same]
  | value e => simp only [Origin.places,each e (List.mem_singleton.mpr rfl)]

-- One case for each form of expression. The parts that are tried at the same place are the same.
theorem eval_same_step (plain : e.PlainCall) (placeless : e.placeless = true) (same : c.focus = d.focus)
    (parts : ∀ p ∈ e.parts, p.placeless = true → p.eval s c = p.eval s d) : e.eval s c = e.eval s d := by
  cases e with
  | const value => simp only [Expr.eval]
  | focus => simp only [Expr.eval,same]
  | or l r | and l r | compare op l r | arith op l r | union l r =>
    rw [Expr.placeless,Bool.and_eq_true] at placeless
    obtain ⟨left,right⟩ := Expr.forall_pair parts
    simp only [Expr.eval,left placeless.1,right placeless.2]
  | neg e =>
    have inner := parts e (List.mem_singleton.mpr rfl)
    simp only [Expr.eval,inner placeless]
  | filter e predicates =>
    have inner := parts e List.mem_cons_self
    simp only [Expr.eval,inner placeless]
  | path origin steps =>
    have start : origin.places s c = origin.places s d := by
      apply places_same same
      intro p member
      apply parts p (List.mem_append_left _ member)
      cases origin with
      | value e =>
        cases List.mem_singleton.mp member
        exact placeless
      | _ => cases member
    simp only [Expr.eval,start]
  | call f args =>
    rw [Expr.placeless] at placeless
    simp only [Bool.and_eq_true,decide_eq_true_eq] at placeless
    obtain ⟨⟨notPosition,notLast⟩,all⟩ := placeless
    have free := plain notPosition notLast
    have each : ∀ a ∈ args, a.eval s c = a.eval s d :=
      fun a member => parts a member (allPlaceless_iff.mp all a member)
    rw [Expr.eval,Expr.eval,callSite_same same,evalArgs_same f.name each]
    cases s.callSite f d with
    | error failure => rfl
    | ok site => exact bind_congr fun values => free site values _ _

-- By induction over the parts, one step for each expression.
theorem eval_same (plain : e.Throughout Expr.PlainCall) (placeless : e.placeless = true)
    (same : c.focus = d.focus) : e.eval s c = e.eval s d := by
  induction e using Expr.induct_parts with
  | whole e ih =>
    apply eval_same_step plain.here placeless same
    intro p member inner
    exact ih p member (plain.part member) inner

end TreeAudit.Query
