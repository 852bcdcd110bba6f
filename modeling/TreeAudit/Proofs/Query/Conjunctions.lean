import TreeAudit.Proofs.Query.Placeless
import TreeAudit.Proofs.Query.UnionLaws


-- Predicates one behind the other, and the one predicate that joins them with `and`. Where neither asks for
-- places and neither comes to a number, which would be a place, both keep the same items. What fails in the
-- one fails in the other, if not with the same failure.
namespace TreeAudit.Query

theorem toOption_bind (x : Except Failure α) (g : α → Except Failure β) :
    (x >>= g).toOption = x.toOption.bind fun a => (g a).toOption := by
  cases x <;> rfl

theorem toOption_mapM (g : α → Except Failure β) (l : List α) :
    (l.mapM g).toOption = l.mapM fun a => (g a).toOption := by
  induction l with
  | nil => rfl
  | cons a l ih =>
    rw [List.mapM_cons,List.mapM_cons,toOption_bind]
    simp only [toOption_bind,ih]
    rfl

-- An expression that is nowhere a single number.
def Expr.NeverNumber (s : Setting) (e : Expr) : Prop := ∀ c x, e.eval s c ≠ .ok (Value.number x)

-- Whether an item is kept, as far as that does not hang on its place.
def Expr.decides (s : Setting) (p : Expr) (i : Item) : Except Failure Bool := do
  (← p.eval s ⟨.item i,1,1⟩).condition

section Filtering
variable {s : Setting} {p q : Expr} {i : Item} {items kept : List Item} {position size : Nat}
  {holds : Context → Except Failure Value} {decided : Item → Except Failure Bool}

theorem evalPredicates_append (predicates after : List Expr) (items : List Item) :
    evalPredicates s (predicates ++ after) items = evalPredicates s predicates items >>= evalPredicates s after := by
  induction predicates generalizing items with
  | nil => rfl
  | cons p predicates ih =>
    rw [List.cons_append,evalPredicates,evalPredicates,bind_assoc]
    exact bind_congr fun kept => ih kept

-- A filter that decides each item by itself succeeds if it can decide them all, and keeps those that it
-- decides for.
theorem filterFrom_ok (each : ∀ i position, tries holds size (i,position) = decided i) :
    filterFrom holds size position items = .ok kept ↔
      (∀ i ∈ items, ∃ keep, decided i = .ok keep) ∧ kept = items.filter fun i => decided i = .ok true := by
  induction items generalizing position kept with
  | nil => simp [filterFrom,eq_comm]
  | cons i items ih =>
    rw [filterFrom_cons,each,bind_eq_ok]
    simp only [bind_eq_ok,ih,List.forall_mem_cons]
    cases outcome : decided i with
    | error f => simp
    | ok keep => cases keep <;> simp [outcome,pure,Except.pure,eq_comm]

theorem keeps_condition {value : Value} (other : ∀ x, value ≠ Value.number x) :
    keeps position value = value.condition := by
  unfold keeps
  split
  · rename_i x
    exact absurd rfl (other x)
  · rfl

theorem decides_at (plain : p.Throughout Expr.PlainCall) (placeless : p.placeless = true)
    (never : p.NeverNumber s) (i : Item) (position : Nat) :
    tries (p.eval s) size (i,position) = p.decides s i := by
  have same : p.eval s ⟨.item i,position,size⟩ = p.eval s ⟨.item i,1,1⟩ := eval_same plain placeless rfl
  rw [tries,same,Expr.decides]
  cases result : p.eval s ⟨.item i,1,1⟩ with
  | error f => rfl
  | ok value =>
    apply keeps_condition
    intro x number
    exact never _ x (number ▸ result)

theorem joined_at (plain : p.Throughout Expr.PlainCall ∧ q.Throughout Expr.PlainCall)
    (placeless : p.placeless = true ∧ q.placeless = true) (i : Item) (position : Nat) :
    tries ((Expr.and p q).eval s) size (i,position) =
      (p.decides s i >>= fun keep => if keep then q.decides s i else pure false) := by
  have first : p.eval s ⟨.item i,position,size⟩ = p.eval s ⟨.item i,1,1⟩ := eval_same plain.1 placeless.1 rfl
  have second : q.eval s ⟨.item i,position,size⟩ = q.eval s ⟨.item i,1,1⟩ := eval_same plain.2 placeless.2 rfl
  rw [tries,Expr.eval,first,second,Expr.decides,Expr.decides]
  simp only [bind_assoc]
  apply bind_congr
  intro value
  apply bind_congr
  intro keep
  cases keep with
  | false => rfl
  | true =>
    simp only [if_true,bind_assoc]
    apply bind_congr
    intro other
    cases other.condition <;> rfl

theorem joined_keep {x y : Except Failure Bool} :
    ((∃ keep, (x >>= fun keep => if keep then y else pure false) = .ok keep) ↔
      (∃ keep, x = .ok keep) ∧ (x = .ok true → ∃ keep, y = .ok keep)) ∧
    ((x >>= fun keep => if keep then y else pure false) = .ok true ↔ x = .ok true ∧ y = .ok true) := by
  cases x with
  | error f => simp [bind,Except.bind]
  | ok keep => cases keep <;> simp [bind,Except.bind,pure,Except.pure]

end Filtering

section Joining
variable {s : Setting} {p q : Expr}

theorem filter_joined (plain : p.Throughout Expr.PlainCall ∧ q.Throughout Expr.PlainCall)
    (placeless : p.placeless = true ∧ q.placeless = true) (never : p.NeverNumber s ∧ q.NeverNumber s)
    (items : List Item) :
    (filterItems (p.eval s) items >>= filterItems (q.eval s)).toOption =
      (filterItems ((Expr.and p q).eval s) items).toOption := by
  apply toOption_congr
  intro kept
  have first : ∀ {items kept : List Item}, filterItems (p.eval s) items = .ok kept ↔ _ :=
    fun {items kept} => filterFrom_ok (decides_at plain.1 placeless.1 never.1)
  have second : ∀ {items kept : List Item}, filterItems (q.eval s) items = .ok kept ↔ _ :=
    fun {items kept} => filterFrom_ok (decides_at plain.2 placeless.2 never.2)
  have joined : filterItems ((Expr.and p q).eval s) items = .ok kept ↔ _ := filterFrom_ok (joined_at plain placeless)
  rw [bind_eq_ok,joined]
  simp only [first,second,joined_keep.1,joined_keep.2]
  constructor
  · intro ⟨middle,⟨all,short⟩,later,last⟩
    subst short
    refine ⟨fun i member => ⟨all i member,fun keep => ?_⟩,?_⟩
    · exact later i (List.mem_filter.mpr ⟨member,decide_eq_true keep⟩)
    · rw [last,List.filter_filter]
      simp only [Bool.decide_and,Bool.and_comm]
  · intro ⟨all,last⟩
    refine ⟨_,⟨fun i member => (all i member).1,rfl⟩,fun i member => ?_,?_⟩
    · obtain ⟨among,keep⟩ := List.mem_filter.mp member
      exact (all i among).2 (of_decide_eq_true keep)
    · rw [last,List.filter_filter]
      simp only [Bool.decide_and,Bool.and_comm]

theorem predicates_joined (plain : p.Throughout Expr.PlainCall ∧ q.Throughout Expr.PlainCall)
    (placeless : p.placeless = true ∧ q.placeless = true) (never : p.NeverNumber s ∧ q.NeverNumber s)
    (before after : List Expr) (items : List Item) :
    (evalPredicates s (before ++ p :: q :: after) items).toOption =
      (evalPredicates s (before ++ .and p q :: after) items).toOption := by
  simp only [evalPredicates_append,toOption_bind]
  refine congrArg (Option.bind _) (funext fun kept => ?_)
  have two : evalPredicates s (p :: q :: after) kept =
      (filterItems (p.eval s) kept >>= filterItems (q.eval s)) >>= evalPredicates s after := by
    simp only [evalPredicates,bind_assoc]
  have one : evalPredicates s (.and p q :: after) kept =
      filterItems ((Expr.and p q).eval s) kept >>= evalPredicates s after := by
    simp only [evalPredicates]
  rw [two,one,toOption_bind (_ >>= _),filter_joined plain placeless never,toOption_bind]

end Joining

-- Lists of predicates that keep the same items do so in filters and in steps of paths.
section Places
variable {s : Setting} {predicates others : List Expr}

theorem filter_toOption (same : ∀ items, (evalPredicates s predicates items).toOption =
      (evalPredicates s others items).toOption) (e : Expr) (c : Context) :
    ((Expr.filter e predicates).eval s c).toOption = ((Expr.filter e others).eval s c).toOption := by
  simp only [Expr.eval,toOption_bind,same]

theorem step_toOption (same : ∀ items, (evalPredicates s predicates items).toOption =
      (evalPredicates s others items).toOption) (bare : predicates.isEmpty = others.isEmpty) (axis : Axis)
    (test : NodeTest) (places : List Place) :
    ((Step.mk axis test predicates).eval s places).toOption =
      ((Step.mk axis test others).eval s places).toOption := by
  have stays : (Step.mk axis test predicates).keepsDocument places = (Step.mk axis test others).keepsDocument places := by
    simp only [Step.keepsDocument,Step.predicates,bare]
    rfl
  simp only [Step.eval,toOption_bind,toOption_mapM,same,stays]

theorem path_toOption {step other : Step}
    (same : ∀ places, (step.eval s places).toOption = (other.eval s places).toOption) (origin : Origin)
    (steps later : List Step) (c : Context) :
    ((Expr.path origin (steps ++ step :: later)).eval s c).toOption =
      ((Expr.path origin (steps ++ other :: later)).eval s c).toOption := by
  simp only [Expr.eval,evalSteps_append,evalSteps,toOption_bind,same]

end Places

-- Two predicates in a row keep what their conjunction keeps, in filters and in steps, whatever predicates
-- and steps stand around them, or both sides fail.
theorem conjunction_law {l : Language} {bindings : List (String × Value)} {constant : Value → Prop} {p q : Expr}
    {s : Setting} (builtIn : l ∈ Registry.builtIn.languages)
    (read : PatternReader)
    (compiled : p.Compiled ⟨l.reading read,bindings⟩ constant ∧ q.Compiled ⟨l.reading read,bindings⟩ constant)
    (placeless : p.placeless = true ∧ q.placeless = true) (never : p.NeverNumber s ∧ q.NeverNumber s) :
    (∀ e before after c,
      ((Expr.filter e (before ++ p :: q :: after)).eval s c).toOption =
        ((Expr.filter e (before ++ .and p q :: after)).eval s c).toOption) ∧
    ∀ origin steps axis test before after later c,
      ((Expr.path origin (steps ++ .mk axis test (before ++ p :: q :: after) :: later)).eval s c).toOption =
        ((Expr.path origin (steps ++ .mk axis test (before ++ .and p q :: after) :: later)).eval s c).toOption := by
  have plain := And.intro (plainCalls_of_compiled builtIn read compiled.1) (plainCalls_of_compiled builtIn read compiled.2)
  have same := fun before after => predicates_joined plain placeless never before after
  constructor
  · intro e before after c
    apply filter_toOption (same before after)
  · intro origin steps axis test before after later c
    apply path_toOption
    apply step_toOption (same before after)
    cases before <;> rfl

-- A comparison is never a number.
theorem compare_neverNumber (op : Comparison) (l r : Expr) (s : Setting) : (Expr.compare op l r).NeverNumber s := by
  intro c x result
  rw [Expr.eval] at result
  obtain ⟨_,_,behind⟩ := bind_ok result
  obtain ⟨_,_,last⟩ := bind_ok behind
  cases last

theorem conjunction_law_sample :
    let v : Vocabulary := ⟨Java.language.reading .standard,[]⟩
    let s : Setting := ⟨sample,Java.language⟩
    let written : List Symbol → List Token := fun signs => signs.map fun sign => ⟨sign,0⟩
    ∃ p q,
      parse v (written [.name "name",.leftParen,.rightParen,.equal,.string "MethodDeclaration",.finish]) = .ok p ∧
      parse v (written [.at,.name "Name",.notEqual,.string "",.finish]) = .ok q ∧
      (p.placeless = true ∧ q.placeless = true) ∧ (p.NeverNumber s ∧ q.NeverNumber s) ∧
      ∀ c, ((Expr.path .focus [.mk .child .any [p,q]]).eval s c).toOption =
        ((Expr.path .focus [.mk .child .any [.and p q]]).eval s c).toOption := by
  intro v s written
  obtain ⟨p,first,free,never⟩ : ∃ p,
      parse v (written [.name "name",.leftParen,.rightParen,.equal,.string "MethodDeclaration",.finish]) = .ok p ∧
        p.placeless = true ∧ p.NeverNumber s := ⟨_,rfl,rfl,compare_neverNumber _ _ _ _⟩
  obtain ⟨q,second,alsoFree,neither⟩ : ∃ q,
      parse v (written [.at,.name "Name",.notEqual,.string "",.finish]) = .ok q ∧
        q.placeless = true ∧ q.NeverNumber s := ⟨_,rfl,rfl,compare_neverNumber _ _ _ _⟩
  have supplies : ∀ ts, v.Supplies (fun _ => True) ts := fun ts => ⟨fun _ _ => trivial,fun _ _ _ _ => trivial⟩
  obtain ⟨_,steps⟩ := conjunction_law (l := Java.language) List.mem_cons_self .standard
    ⟨parse_compiled (supplies _) first,parse_compiled (supplies _) second⟩ ⟨free,alsoFree⟩ ⟨never,neither⟩
  exact ⟨p,q,first,second,⟨free,alsoFree⟩,⟨never,neither⟩,steps .focus [] .child .any [] [] []⟩

end TreeAudit.Query
