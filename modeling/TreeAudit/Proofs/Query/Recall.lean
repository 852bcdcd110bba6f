import TreeAudit.Proofs.Query.Memo
import TreeAudit.Proofs.Query.Selection
import TreeAudit.Query.Recall

-- The memo of a tree does not show in what is evaluated. From a memo of true values evaluation gives what
-- it gives without a memo, failures included, and leaves a memo of true values behind.
namespace TreeAudit

namespace Query

def Setting.Truthful (s : Setting) : Memo → Prop := Memo.Truthful s.language.metrics s.tree

def Expr.Steady : Expr → Prop
  | .call f _ => f.Steady
  | _ => True

section Evaluation
variable {s : Setting} {e : Expr}

theorem recallFrom_recalls {fine : Memo → Prop} {holds : Context → Recalling Value}
    {plain : Context → Except Failure Value} (each : ∀ c, Recalls fine (holds c) (plain c)) (size : Nat)
    (items : List Item) (position : Nat) :
    Recalls fine (recallFrom holds size position items) (filterFrom plain size position items) := by
  induction items generalizing position with
  | nil => exact .done fine []
  | cons i is ih =>
    refine (each _).bind fun value => Recalls.bind (.lift fine _) fun keep => ?_
    exact (ih (position + 1)).bind fun rest => .done fine _

theorem recallPredicates_recalls {predicates : List Expr}
    (each : ∀ p ∈ predicates, ∀ c, Recalls s.Truthful (p.recalled s c) (p.eval s c)) (items : List Item) :
    Recalls s.Truthful (recallPredicates s predicates items) (evalPredicates s predicates items) := by
  induction predicates generalizing items with
  | nil =>
    rw [recallPredicates,evalPredicates]
    exact .done _ items
  | cons p ps ih =>
    obtain ⟨first,rest⟩ := List.forall_mem_cons.mp each
    rw [recallPredicates,evalPredicates]
    exact (recallFrom_recalls first _ items 1).bind fun kept => ih rest kept

theorem step_recalls {step : Step}
    (each : ∀ p ∈ step.predicates, ∀ c, Recalls s.Truthful (p.recalled s c) (p.eval s c))
    (places : List Place) : Recalls s.Truthful (step.recalled s places) (step.eval s places) := by
  obtain ⟨axis,test,predicates⟩ := step
  rw [Step.recalled,Step.eval]
  refine Recalls.bind (Recalls.mapM (fun p => ?_) places) fun selected => .done _ _
  exact Recalls.bind (.lift _ _) fun items => recallPredicates_recalls each items

theorem recallSteps_recalls {steps : List Step}
    (each : ∀ step ∈ steps, ∀ p ∈ step.predicates, ∀ c, Recalls s.Truthful (p.recalled s c) (p.eval s c))
    (places : List Place) : Recalls s.Truthful (recallSteps s steps places) (evalSteps s steps places) := by
  induction steps generalizing places with
  | nil =>
    rw [recallSteps,evalSteps]
    exact .done _ places
  | cons step steps ih =>
    obtain ⟨first,rest⟩ := List.forall_mem_cons.mp each
    rw [recallSteps,evalSteps]
    exact (step_recalls first places).bind fun next => ih rest next

theorem recallArgs_recalls {args : List Expr} {c : Context} (function : String)
    (each : ∀ a ∈ args, Recalls s.Truthful (a.recalled s c) (a.eval s c)) (index : Nat)
    (types : List SequenceType) :
    Recalls s.Truthful (recallArgs s function index types args c) (evalArgs s function index types args c) := by
  induction args generalizing index types with
  | nil =>
    cases types
    all_goals
      rw [recallArgs,evalArgs]
      · exact .done _ []
      all_goals simp
  | cons arg args ih =>
    obtain ⟨first,rest⟩ := List.forall_mem_cons.mp each
    cases types with
    | nil =>
      rw [recallArgs,evalArgs]
      · exact .done _ []
      all_goals simp
    | cons ty types =>
      rw [recallArgs,evalArgs]
      refine first.bind fun given => Recalls.bind (.lift _ _) fun v => ?_
      exact (ih rest (index + 1) types).bind fun vs => .done _ _

theorem call_recalls {f : QueryFunction} {args : List Expr} {c : Context}
    (metrics : Metric.AllSteady s.language.metrics) (steady : f.Steady)
    (each : ∀ a ∈ args, Recalls s.Truthful (a.recalled s c) (a.eval s c)) :
    Recalls s.Truthful ((Expr.call f args).recalled s c) ((Expr.call f args).eval s c) := by
  rw [Expr.recalled,Expr.eval]
  refine Recalls.follow (.lift _ _) fun site place => ?_
  refine (recallArgs_recalls f.name each 0 f.parameters).bind fun values => ?_
  obtain ⟨tree,known⟩ := callSite_setting place
  have answered := steady site values (known ▸ metrics)
  rw [tree,known] at answered
  exact answered

-- One case for each form of expression, as for evaluation without a memo.
theorem recall_step (metrics : Metric.AllSteady s.language.metrics) (steady : e.Steady)
    (parts : ∀ p ∈ e.parts, ∀ c, Recalls s.Truthful (p.recalled s c) (p.eval s c)) (c : Context) :
    Recalls s.Truthful (e.recalled s c) (e.eval s c) := by
  cases e with
  | const value =>
    rw [Expr.recalled,Expr.eval]
    exact .done _ value
  | focus =>
    rw [Expr.recalled,Expr.eval]
    exact .done _ _
  | or l r =>
    obtain ⟨left,right⟩ := Expr.forall_pair parts
    rw [Expr.recalled,Expr.eval]
    refine (left c).bind fun value => Recalls.bind (.lift _ _) fun b => ?_
    cases b with
    | true => exact .done _ _
    | false =>
      refine (right c).bind fun value => Recalls.bind (.lift _ _) fun b => ?_
      exact .done _ _
  | and l r =>
    obtain ⟨left,right⟩ := Expr.forall_pair parts
    rw [Expr.recalled,Expr.eval]
    refine (left c).bind fun value => Recalls.bind (.lift _ _) fun b => ?_
    cases b with
    | true =>
      refine (right c).bind fun value => Recalls.bind (.lift _ _) fun b => ?_
      exact .done _ _
    | false => exact .done _ _
  | compare op l r =>
    obtain ⟨left,right⟩ := Expr.forall_pair parts
    rw [Expr.recalled,Expr.eval]
    exact (left c).bind fun x => (right c).bind fun y => .done _ _
  | arith op l r =>
    obtain ⟨left,right⟩ := Expr.forall_pair parts
    rw [Expr.recalled,Expr.eval]
    refine (left c).bind fun value => Recalls.bind (.lift _ _) fun x => ?_
    refine (right c).bind fun value => Recalls.bind (.lift _ _) fun y => ?_
    cases x with
    | none => exact .done _ _
    | some x =>
      cases y with
      | none => exact .done _ _
      | some y => exact .done _ _
  | neg e =>
    have inner := List.forall_mem_singleton.mp parts
    rw [Expr.recalled,Expr.eval]
    refine (inner c).bind fun value => Recalls.bind (.lift _ _) fun x => ?_
    cases x with
    | none => exact .done _ _
    | some x => exact .done _ _
  | union l r =>
    obtain ⟨left,right⟩ := Expr.forall_pair parts
    rw [Expr.recalled,Expr.eval]
    exact (left c).bind fun x => (right c).bind fun y => .lift _ _
  | filter e predicates =>
    obtain ⟨inner,all⟩ := List.forall_mem_cons.mp parts
    rw [Expr.recalled,Expr.eval]
    exact (inner c).bind fun items => recallPredicates_recalls all items
  | path origin steps =>
    have all : ∀ step ∈ steps, ∀ p ∈ step.predicates, ∀ c, Recalls s.Truthful (p.recalled s c) (p.eval s c) :=
      fun step member p inside =>
        parts p (List.mem_append_right _ (List.mem_flatMap.mpr ⟨step,member,inside⟩))
    have start : Recalls s.Truthful (origin.recalled s c) (origin.places s c) := by
      cases origin with
      | document | focus =>
        rw [Origin.recalled,Origin.places]
        exact .done _ _
      | value e =>
        rw [Origin.recalled,Origin.places]
        exact (parts e (List.mem_append_left _ List.mem_cons_self) c).bind fun items => .done _ _
    rw [Expr.recalled,Expr.eval]
    exact start.bind fun places => (recallSteps_recalls all places).bind fun reached => .done _ _
  | call f args => exact call_recalls metrics steady fun a member => parts a member c

theorem recall_recalls (metrics : Metric.AllSteady s.language.metrics) (steady : e.Throughout Expr.Steady)
    (c : Context) : Recalls s.Truthful (e.recalled s c) (e.eval s c) := by
  induction e using Expr.induct_parts generalizing c with
  | whole e ih => exact recall_step metrics steady.here (fun p member => ih p member (steady.part member)) c

end Evaluation

-- The functions that a compiled query calls are those of its language and those of all languages.
theorem steady_of_compiled {l : Language} {bindings : List (String × Value)} {constant : Value → Prop}
    {e : Expr} (steady : l.Steady) (compiled : e.Compiled ⟨l,bindings⟩ constant) :
    e.Throughout Expr.Steady := by
  refine compiled.mono fun p sound => ?_
  cases p with
  | call f args =>
    obtain ⟨name,called⟩ := sound
    obtain ⟨g,same,found,_⟩ := call_sound called
    cases same
    exact (function_mem found).elim (steady.functions f) (coreFunctions_steady _ f)
  | _ => trivial

end Query

namespace PathQuery
open Query

-- A compiled query over a tree of any language: what it was compiled for is `l`, and `k` is at hand.
theorem recallNodes_recalls {source : String} {l k : Language} {bindings : List (String × Value)}
    {q : PathQuery} (compiled : compile source l bindings = .ok q) (steady : l.Steady)
    (metrics : Metric.AllSteady k.metrics) (t : Tree) :
    Recalls (Memo.Truthful k.metrics t) (q.recallNodes t k) (q.nodes t k) := by
  have sound : q.expr.Compiled ⟨l,bindings⟩ fun _ => True :=
    compile_compiled (fun _ _ => trivial) (fun _ _ _ => trivial) compiled
  refine Recalls.bind ?_ fun value => .done _ _
  unfold recallValue value
  split
  · exact .lift _ (.error _)
  · exact recall_recalls (s := ⟨t,k⟩) metrics (steady_of_compiled steady sound) Context.document

end PathQuery

end TreeAudit
