import TreeAudit.Proofs.Query.Evaluation
import TreeAudit.Proofs.Query.Selection

-- Mistakes in the definition of a query are found when it is compiled. What can still fail over a tree
-- is evaluation, whatever stands in the tree and in the variables; only a metric whose key is not
-- written down can turn out to be unknown.
namespace TreeAudit
open Query

namespace Query

-- A computation that does not fail for a reason that lies in the query.
def Faultless (x : Except Failure α) : Prop := Ends (fun _ => True) (·.isConfiguration = false) x

theorem tolerant_faultless : Tolerant (·.isConfiguration = false) := fun _ _ => rfl

variable {x : Except Failure α} {g : α → Except Failure β} {s : Setting} {e l r : Expr} {c : Context}
  {items value : Value} {predicates args : List Expr} {steps : List Step}

theorem Ends.faultless {good : α → Prop} (ends : Ends good (·.isConfiguration = false) x) : Faultless x :=
  ends.mono fun _ _ => trivial

theorem Faultless.bind (first : Faultless x) (next : ∀ a, Faultless (g a)) : Faultless (x >>= g) :=
  Ends.bind first fun a _ => next a

theorem Faultless.mapM {g : γ → Except Failure β} (each : ∀ a, Faultless (g a)) (as : List γ) :
    Faultless (as.mapM g) :=
  (Ends.mapM as fun a _ => each a).faultless

theorem node_faultless (s : Setting) (id : NodeId) : Faultless (s.node id) := by
  unfold Setting.node
  split
  · trivial
  · exact rfl

theorem candidates_faultless (axis : Axis) (test : NodeTest) (p : Place) :
    Faultless (s.candidates axis test p) := by
  match p with
  | .document => trivial
  | .item (.node id) =>
    apply (node_faultless s id).bind
    intro known
    split
    · trivial
    · trivial
  | .item (.atom a) => exact rfl

theorem filterItems_faultless {holds : Context → Except Failure Value} (each : ∀ c, Faultless (holds c))
    (items : List Item) : Faultless (filterItems holds items) :=
  (filterFrom_ends tolerant_faultless (fun i _ position => each ⟨.item i,position,_⟩) 1).faultless

theorem evalPredicates_faultless (each : ∀ p ∈ predicates, ∀ c, Faultless (p.eval s c)) :
    Faultless (evalPredicates s predicates items) := by
  induction predicates generalizing items with
  | nil =>
    rw [evalPredicates]
    trivial
  | cons p predicates ih =>
    obtain ⟨first,later⟩ := List.forall_mem_cons.mp each
    rw [evalPredicates]
    apply (filterItems_faultless first items).bind
    intro kept
    exact ih later

theorem evalSteps_faultless {places : List Place}
    (each : ∀ step ∈ steps, ∀ p ∈ step.predicates, ∀ c, Faultless (p.eval s c)) :
    Faultless (evalSteps s steps places) := by
  induction steps generalizing places with
  | nil =>
    rw [evalSteps]
    trivial
  | cons step steps ih =>
    obtain ⟨first,later⟩ := List.forall_mem_cons.mp each
    obtain ⟨axis,test,predicates⟩ := step
    have taken : Faultless ((Step.mk axis test predicates).eval s places) := by
      rw [Step.eval]
      have reached : ∀ p, Faultless (s.candidates axis test p >>= evalPredicates s predicates) := by
        intro p
        apply (candidates_faultless axis test p).bind
        intro items
        exact evalPredicates_faultless first
      exact (Faultless.mapM reached places).bind fun _ => trivial
    rw [evalSteps]
    apply taken.bind
    intro next
    exact ih later

-- The two ways in which the value of a part is put to use.
theorem condition_faultless {x : Except Failure Value} {g : Bool → Except Failure β} (first : Faultless x)
    (next : ∀ b, Faultless (g b)) : Faultless (x >>= fun value => value.condition >>= g) := by
  apply first.bind
  intro value
  exact Ends.bind (condition_ends tolerant_faultless value) fun b _ => next b

theorem operand_faultless {x : Except Failure Value} {g : Option Float → Except Failure β}
    (first : Faultless x) (next : ∀ a, Faultless (g a)) :
    Faultless (x >>= fun value => operand s.tree value >>= g) := by
  apply first.bind
  intro value
  exact Ends.bind (operand_ends tolerant_faultless value) fun a _ => next a

theorem unite_faultless (items value : Value) : Faultless (unite items value) := by
  unfold unite
  split
  · trivial
  · exact rfl

theorem callSite_faultless (f : QueryFunction) (c : Context) : Faultless (s.callSite f c) := by
  have focused : Faultless (s.focusNode c) := by
    unfold Setting.focusNode
    split
    · exact (node_faultless s _).bind fun _ => trivial
    · trivial
  apply focused.bind
  intro focus
  split
  · exact rfl
  · trivial

-- What a call needs so that it cannot be at fault: arguments as declared, and a function that is not at
-- fault when it is given what these arguments come to.
def Expr.Checked (s : Setting) : Expr → Prop
  | .call f args =>
    f.parameters.length = args.length ∧ f.parameters.all SequenceType.settled = true ∧
      ∀ c site values, s.callSite f c = .ok site →
        evalArgs s f.name 0 f.parameters args c = .ok values →
          List.Forall₂ SequenceType.Holds f.parameters values → Faultless (f.call site values)
  | _ => True

theorem call_faultless {f : QueryFunction} (checked : (Expr.call f args).Checked s)
    (each : ∀ a ∈ args, ∀ c, Faultless (a.eval s c)) (c : Context) :
    Faultless ((Expr.call f args).eval s c) := by
  obtain ⟨counted,settled,answered⟩ := checked
  rw [Expr.eval]
  cases place : s.callSite f c with
  | error f => exact (callSite_faultless _ c).failure place
  | ok site =>
    have ends := evalArgs_ends tolerant_faultless f.name 0 counted settled fun a member => each a member c
    cases given : evalArgs s f.name 0 f.parameters args c with
    | error f => exact ends.failure given
    | ok values => exact answered c site values place given (ends.value given)

-- One case for each form of expression, as for what evaluation keeps; here nothing is known of the tree
-- or of the items.
theorem eval_faultless_step (checked : e.Checked s)
    (parts : ∀ p ∈ e.parts, ∀ c, Faultless (p.eval s c)) (c : Context) : Faultless (e.eval s c) := by
  cases e with
  | const value =>
    rw [Expr.eval]
    trivial
  | focus =>
    rw [Expr.eval]
    trivial
  | or l r =>
    obtain ⟨left,right⟩ := Expr.forall_pair parts
    rw [Expr.eval]
    apply condition_faultless (left c)
    intro b
    cases b with
    | true => trivial
    | false => exact condition_faultless (right c) fun _ => trivial
  | and l r =>
    obtain ⟨left,right⟩ := Expr.forall_pair parts
    rw [Expr.eval]
    apply condition_faultless (left c)
    intro b
    cases b with
    | true => exact condition_faultless (right c) fun _ => trivial
    | false => trivial
  | compare op l r =>
    obtain ⟨left,right⟩ := Expr.forall_pair parts
    rw [Expr.eval]
    apply (left c).bind
    intro x
    exact (right c).bind fun _ => trivial
  | arith op l r =>
    obtain ⟨left,right⟩ := Expr.forall_pair parts
    rw [Expr.eval]
    apply operand_faultless (left c)
    intro x
    apply operand_faultless (right c)
    intro y
    split
    · trivial
    · trivial
  | neg e =>
    rw [Expr.eval]
    apply operand_faultless (parts e (List.mem_singleton.mpr rfl) c)
    intro x
    split
    · trivial
    · trivial
  | union l r =>
    obtain ⟨left,right⟩ := Expr.forall_pair parts
    rw [Expr.eval]
    apply (left c).bind
    intro x
    apply (right c).bind
    intro y
    exact unite_faultless x y
  | filter e predicates =>
    obtain ⟨first,later⟩ := List.forall_mem_cons.mp parts
    rw [Expr.eval]
    apply (first c).bind
    intro items
    exact evalPredicates_faultless later
  | path origin steps =>
    obtain ⟨first,later⟩ := List.forall_mem_append.mp parts
    have start : Faultless (origin.places s c) := by
      cases origin with
      | document => rw [Origin.places]; trivial
      | focus => rw [Origin.places]; trivial
      | value e =>
        rw [Origin.places]
        exact (first e (List.mem_singleton.mpr rfl) c).bind fun items => trivial
    rw [Expr.eval]
    apply start.bind
    intro places
    apply Faultless.bind
    · apply evalSteps_faultless
      intro step member p there
      exact later p (List.mem_flatMap.mpr ⟨step,member,there⟩)
    · intro last
      trivial
  | call f args => exact call_faultless checked parts c

theorem eval_faultless (checked : e.Throughout (Expr.Checked s)) (c : Context) :
    Faultless (e.eval s c) := by
  induction e using Expr.induct_parts generalizing c with
  | whole e ih =>
    exact eval_faultless_step checked.here (fun p member => ih p member (checked.part member)) c

-- The key of a call of `metric` is written down, as a text or by way of a variable for a single text.
def Expr.KeyGiven : Expr → Prop
  | .call f args => f.name = "metric" → ∃ key, args = [.const (Value.text key)]
  | _ => True

variable {lang : Language} {f : QueryFunction} {name : String}

-- The only function of the name, with the check that goes before and the look-up that follows.
theorem metric_function (builtIn : lang ∈ Registry.builtIn.languages) (read : PatternReader)
    (found : (lang.reading read).function? name = some f) (named : f.name = "metric") :
    f.parameters = [.one .string] ∧ (f.call = fun site values => metricValue site (argText values 0)) ∧
      ∃ check, f.check = some check ∧ ∀ key metrics,
        check [some (.text key)] metrics = .ok () → (Metric.withKey? metrics key).isSome = true := by
  have own : ∀ l ∈ Registry.builtIn.languages, ∀ f ∈ l.functions, f.name ≠ "metric" := by decide
  have core : f ∈ coreFunctions read :=
    (function_mem found).resolve_left fun mine => own lang builtIn f mine named
  have distinct : ((coreFunctions read).map QueryFunction.name).Nodup := of_decide_eq_true rfl
  have only := find_named distinct core
  rw [named] at only
  cases only
  refine ⟨rfl,rfl,_,rfl,?_⟩
  intro key metrics passed
  cases known : (Metric.withKey? metrics key).isSome with
  | true => rfl
  | false =>
    simp only [literalText?,List.getElem?_cons_zero,known] at passed
    cases passed

-- A key that is written down is converted to itself.
theorem evalArgs_key (s : Setting) (c : Context) (key : String) (values : List Value)
    (given : evalArgs s name 0 [.one .string] [.const (Value.text key)] c = .ok values) :
    argText values 0 = key := by
  simp only [evalArgs,Expr.eval] at given
  cases given
  rfl

-- A call that was let through has passed the check of its function.
theorem call_check {v : Vocabulary} {check : List (Option Item) → List Metric → Except Failure Unit}
    (called : v.call name args = .ok (.call f args)) (checks : f.check = some check) :
    check (args.map Expr.literal?) v.language.metrics = .ok () := by
  obtain ⟨g,same,found,counted⟩ := call_sound called
  cases same
  rw [Vocabulary.call,found] at called
  simp only [counted,ne_eq,not_true_eq_false,if_false,checks] at called
  obtain ⟨_,passed,_⟩ := bind_ok called
  exact passed

-- The check on the key is what rules the failure of the look-up out.
theorem metric_faultless {v : Vocabulary} {key : String} {values : List Value} {site : CallSite}
    (builtIn : lang ∈ Registry.builtIn.languages) (read : PatternReader)
    (language : v.language = lang.reading read) (same : s.language = v.language) (named : f.name = "metric")
    (called : v.call name [.const (Value.text key)] = .ok (.call f [.const (Value.text key)]))
    (place : s.callSite f c = .ok site)
    (given : evalArgs s f.name 0 f.parameters [.const (Value.text key)] c = .ok values) :
    Faultless (f.call site values) := by
  obtain ⟨g,equal,found,_⟩ := call_sound called
  cases equal
  rw [language] at found
  obtain ⟨parameters,call,check,checks,refuses⟩ := metric_function builtIn read found named
  have known := refuses key _ (call_check called checks)
  rw [parameters] at given
  rw [call]
  change Faultless (metricValue site (argText values 0))
  rw [evalArgs_key s c key values given,metricValue,(callSite_setting place).2,same]
  obtain ⟨m,found⟩ := Option.isSome_iff_exists.mp known
  rw [found]
  exact Faultless.bind (focusNode_ends tolerant_faultless site) fun id => trivial

theorem checked_of_compiled {bindings : List (String × Value)} {constant : Value → Prop}
    {read : PatternReader} (builtIn : lang ∈ Registry.builtIn.languages)
    (sameLanguage : s.language = lang.reading read)
    (sound : e.Sound ⟨lang.reading read,bindings⟩ constant) (keyed : e.KeyGiven) : e.Checked s := by
  cases e with
  | call f args =>
    obtain ⟨name,called⟩ := sound
    obtain ⟨g,same,found,counted⟩ := call_sound called
    cases same
    refine ⟨counted,(builtIn_types builtIn read found).1,?_⟩
    intro c site values place given typed
    by_cases named : f.name = "metric"
    · obtain ⟨key,rfl⟩ := keyed named
      exact metric_faultless builtIn read rfl sameLanguage named called place given
    · have answers := builtIn_answers tolerant_faultless builtIn read found fun same => absurd same named
      exact (answers site values typed).faultless
  | _ => trivial

end Query

namespace PathQuery
variable {source : String} {l k : Language} {bindings : List (String × Value)} {q : PathQuery}

theorem builtIn_id (one : l ∈ Registry.builtIn.languages) (two : k ∈ Registry.builtIn.languages)
    (same : l.id = k.id) : l = k := by
  rcases List.mem_pair.mp one with rfl | rfl
  · rcases List.mem_pair.mp two with rfl | rfl
    · rfl
    · exact absurd same (by decide)
  · rcases List.mem_pair.mp two with rfl | rfl
    · exact absurd same (by decide)
    · rfl

-- A query that compiles is right as far as can be seen without a tree: over any tree at all, with any
-- variables and however patterns are read, it has a value or fails in evaluation.
theorem value_or_evaluation (builtIn : l ∈ Registry.builtIn.languages)
    (given : k ∈ Registry.builtIn.languages) (read : PatternReader)
    (compiled : compile source (l.reading read) bindings = .ok q)
    (keyed : q.expr.Throughout Expr.KeyGiven) (t : Tree) :
    (∃ value, q.value t (k.reading read) = .ok value) ∨
      ∃ problem, q.value t (k.reading read) = .error (.evaluation problem) := by
  have faultless : Faultless (q.value t (k.reading read)) := by
    unfold value
    split
    · exact rfl
    · rename_i ours
      have id : k.id = q.language := by
        by_contra other
        exact ours (.inr other)
      cases builtIn_id given builtIn (id.trans (compile_ok compiled).1)
      have sound : q.expr.Compiled ⟨l.reading read,bindings⟩ fun _ => True :=
        compile_compiled (fun _ _ => trivial) (fun _ _ _ => trivial) compiled
      apply eval_faultless
      intro p inside
      exact checked_of_compiled builtIn rfl (sound p inside) (keyed p inside)
  cases result : q.value t (k.reading read) with
  | ok value => exact .inl ⟨value,rfl⟩
  | error f =>
    have runtime := faultless.failure result
    cases f with
    | evaluation problem => exact .inr ⟨problem,rfl⟩
    | _ => cases runtime

theorem value_or_evaluation_sample :
    let lang := Java.language.reading .standard
    ∃ q, compile "//MethodDeclaration[metric($key)]" lang [("key",Value.text "cyclo")] = .ok q ∧
      q.expr.Throughout Expr.KeyGiven ∧ ((∃ value, q.value sample lang = .ok value) ∨
        ∃ problem, q.value sample lang = .error (.evaluation problem)) := by
  intro lang
  have scanned : tokenize "//MethodDeclaration[metric($key)]" =
      .ok [⟨.doubleSlash,0⟩,⟨.name "MethodDeclaration",2⟩,⟨.leftBracket,19⟩,⟨.name "metric",20⟩,
        ⟨.leftParen,26⟩,⟨.dollar,27⟩,⟨.name "key",28⟩,⟨.rightParen,31⟩,⟨.rightBracket,32⟩,
        ⟨.finish,33⟩] := by decide +kernel
  obtain ⟨q,compiled,keyed⟩ : ∃ q, compile "//MethodDeclaration[metric($key)]" lang
      [("key",Value.text "cyclo")] = .ok q ∧ q.expr.Throughout Expr.KeyGiven := by
    refine ⟨_,by rw [compile,scanned]; rfl,?_⟩
    have key : (Expr.const (Value.text "cyclo")).Throughout Expr.KeyGiven :=
      Expr.throughout_iff.mpr ⟨trivial,fun p member => absurd member List.not_mem_nil⟩
    refine Expr.throughout_iff.mpr ⟨trivial,List.forall_mem_singleton.mpr ?_⟩
    exact Expr.throughout_iff.mpr ⟨fun _ => ⟨"cyclo",rfl⟩,List.forall_mem_singleton.mpr key⟩
  exact ⟨q,compiled,keyed,
    value_or_evaluation List.mem_cons_self List.mem_cons_self _ compiled keyed sample⟩

end PathQuery
end TreeAudit
