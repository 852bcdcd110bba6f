import TreeAudit.Proofs.Query.Outcome
import TreeAudit.Proofs.Query.Parts
import TreeAudit.Query.Grammar

-- What the reader builds. Constants are literals or values of variables, calls have passed the look-up,
-- the count of arguments and the check of their literals, and no path or filter is empty.
namespace TreeAudit.Query

-- The condition on a single expression; `Expr.Throughout` carries it to the ones inside.
def Expr.Sound (v : Vocabulary) (constant : Value → Prop) : Expr → Prop
  | .const value => constant value
  | .filter _ predicates => predicates ≠ []
  | .path _ steps => steps ≠ []
  | .call f args => ∃ name, v.call name args = .ok (.call f args)
  | _ => True

def Expr.Compiled (v : Vocabulary) (constant : Value → Prop) (e : Expr) : Prop :=
  e.Throughout (Expr.Sound v constant)

def Step.Compiled (v : Vocabulary) (constant : Value → Prop) (s : Step) : Prop :=
  ∀ p ∈ s.predicates, p.Compiled v constant

-- A value that a query can write down without variables.
def Value.Literal (value : Value) : Prop :=
  value = [] ∨ (∃ s, value = Value.text s) ∨ ∃ x, value = Value.number x

-- Variables count only where there is a sign for them.
def Vocabulary.Supplies (v : Vocabulary) (constant : Value → Prop) (ts : List Token) : Prop :=
  (∀ value : Value, value.Literal → constant value) ∧
    ((∃ k ∈ ts, k.symbol = .dollar) →
      ∀ name value, v.bindings.lookup name = some value → constant value)

theorem Vocabulary.Supplies.suffix {v : Vocabulary} {constant : Value → Prop}
    {ts rest : List Token} (supplies : v.Supplies constant ts) (short : rest <:+ ts) :
    v.Supplies constant rest := by
  refine ⟨supplies.1,?_⟩
  rintro ⟨k,member,sign⟩
  exact supplies.2 ⟨k,short.subset member,sign⟩

theorem advance_suffix (ts : List Token) : advance ts <:+ ts := by
  match ts with
  | [] => exact List.suffix_refl _
  | [t] => exact List.suffix_refl _
  | t :: u :: ts => exact List.suffix_cons _ _

theorem advance_past {ts : List Token} (k : Token) (more : ts ≠ []) : advance (k :: ts) = ts := by
  cases ts with
  | nil => exact absurd rfl more
  | cons t ts => rfl

theorem front_mem (found : front ts = symbol) (notEnd : symbol ≠ .finish) :
    ∃ k ∈ ts, k.symbol = symbol := by
  cases ts with
  | nil => exact absurd found.symm notEnd
  | cons t ts => exact ⟨t,List.mem_cons_self,found⟩

-- A reading that gives a good result leaves a rest of what it was given.
def Reads (v : Vocabulary) (constant : Value → Prop) (good : α → Prop) (ts : List Token)
    (x : Except Failure (α × List Token)) : Prop :=
  v.Supplies constant ts → Ends (fun r => good r.1 ∧ r.2 <:+ ts) (fun _ => True) x

section Reads
variable {v : Vocabulary} {constant : Value → Prop} {good : α → Prop} {also : β → Prop}
  {ts rest : List Token} {x : Except Failure (α × List Token)}

theorem Reads.bind {g : α × List Token → Except Failure (β × List Token)}
    (first : Reads v constant good ts x)
    (next : ∀ a rest, good a → Reads v constant also rest (g (a,rest))) :
    Reads v constant also ts (x >>= g) := by
  intro supplies
  refine (first supplies).bind fun read both => ?_
  refine (next read.1 read.2 both.1 (supplies.suffix both.2)).mono fun r last => ?_
  exact ⟨last.1,last.2.trans both.2⟩

theorem Reads.suffix (short : rest <:+ ts) (reads : Reads v constant good rest x) :
    Reads v constant good ts x := by
  intro supplies
  refine (reads (supplies.suffix short)).mono fun r last => ?_
  exact ⟨last.1,last.2.trans short⟩

theorem Reads.advance (reads : Reads v constant good (advance ts) x) : Reads v constant good ts x :=
  reads.suffix (advance_suffix ts)

theorem Reads.done (kept : good a) : Reads v constant good ts (.ok (a,ts)) :=
  fun _ => ⟨kept,List.suffix_refl ts⟩

theorem Reads.error (f : Failure) : Reads v constant good ts (.error f) := fun _ => trivial

theorem Reads.expect {symbol : Symbol} {what : Expectation}
    {g : List Token → Except Failure (α × List Token)}
    (next : Reads v constant good (Query.advance ts) (g (Query.advance ts))) :
    Reads v constant good ts (Query.expect symbol what ts >>= g) := by
  unfold Query.expect
  split
  · exact next.advance
  · exact Reads.error _

end Reads

variable {v : Vocabulary} {constant : Value → Prop} {e l r : Expr} {ts : List Token}

theorem compiled_pair (two : e.parts = [l,r]) (sound : e.Sound v constant)
    (left : l.Compiled v constant) (right : r.Compiled v constant) : e.Compiled v constant := by
  refine Expr.throughout_iff.mpr ⟨sound,two ▸ fun p member => ?_⟩
  rcases List.mem_cons.mp member with rfl | last
  · exact left
  · exact List.mem_singleton.mp last ▸ right

theorem compiled_leaf (none : e.parts = []) (sound : e.Sound v constant) : e.Compiled v constant :=
  Expr.throughout_iff.mpr ⟨sound,none ▸ fun _ member => absurd member List.not_mem_nil⟩

theorem operator_pair {level : Level} {symbol : Symbol} {combine : Expr → Expr → Expr}
    (found : level.operator? symbol = some combine) (l r : Expr) :
    (combine l r).parts = [l,r] ∧ (combine l r).Sound v constant := by
  unfold Level.operator? at found
  split at found
  all_goals cases found
  all_goals exact ⟨rfl,trivial⟩

theorem call_sound {name : String} {args : List Expr} (called : v.call name args = .ok e) :
    ∃ f, e = .call f args ∧ v.language.function? name = some f ∧
      f.parameters.length = args.length := by
  unfold Vocabulary.call at called
  split at called
  · cases called
  · rename_i f found
    split at called
    · cases called
    · rename_i counted
      refine ⟨f,?_,found,Decidable.not_not.mp counted⟩
      split at called
      · obtain ⟨_,_,passed⟩ := bind_ok called
        cases passed; rfl
      · cases called; rfl

theorem readTest_suffix : Reads v constant (fun _ => True) ts (readTest ts) := by
  unfold readTest
  dsimp only
  split
  · exact (Reads.done trivial).advance
  · split
    · exact Reads.advance (Reads.suffix (advance_suffix _) (Reads.expect (Reads.done trivial)))
    · exact (Reads.done trivial).advance
  · exact Reads.error _

theorem readTest_then {axis : Axis} {good : α → Prop}
    {g : Axis × NodeTest × List Token → Except Failure (α × List Token)}
    (next : ∀ axis test rest, Reads v constant good rest (g (axis,test,rest))) :
    Reads v constant good ts
      ((do let (test,rest) ← readTest ts; pure (axis,test,rest)) >>= g) := by
  rw [bind_assoc]
  refine readTest_suffix.bind fun test rest _ => ?_
  exact next axis test rest

theorem readAxisTest_then {good : α → Prop}
    {g : Axis × NodeTest × List Token → Except Failure (α × List Token)}
    (next : ∀ axis test rest, Reads v constant good rest (g (axis,test,rest))) :
    Reads v constant good ts (readAxisTest ts >>= g) := by
  unfold readAxisTest
  split
  · exact (next _ _ _).advance
  · exact (next _ _ _).advance
  · exact (readTest_then next).advance
  · split
    · split
      · exact Reads.suffix ((advance_suffix _).trans (advance_suffix _)) (readTest_then next)
      · exact Reads.error _
    · exact readTest_then next
  · exact readTest_then next

-- What every reading function promises at one allowance for depth.
structure Readers (v : Vocabulary) (constant : Value → Prop) (n : Nat) : Prop where
  level : ∀ level ts, Reads v constant (·.Compiled v constant) ts (readLevel v n level ts)
  operators : ∀ level left ts, left.Compiled v constant →
    Reads v constant (·.Compiled v constant) ts (readOperators v n level left ts)
  path : ∀ ts, Reads v constant (·.Compiled v constant) ts (readPath v n ts)
  steps : ∀ ts, Reads v constant (∀ s ∈ ·, s.Compiled v constant) ts (readSteps v n ts)
  step : ∀ ts, Reads v constant (·.Compiled v constant) ts (readStep v n ts)
  predicates : ∀ ts, Reads v constant (∀ p ∈ ·, p.Compiled v constant) ts (readPredicates v n ts)
  primary : ∀ ts, Reads v constant (·.Compiled v constant) ts (readPrimary v n ts)
  arguments : ∀ ts, Reads v constant (∀ a ∈ ·, a.Compiled v constant) ts (readArguments v n ts)
  argumentList : ∀ ts, Reads v constant (∀ a ∈ ·, a.Compiled v constant) ts (readArgumentList v n ts)

variable {n : Nat}

theorem readLevel_step (readers : Readers v constant n) (level : Level) (ts : List Token) :
    Reads v constant (·.Compiled v constant) ts (readLevel v (n + 1) level ts) := by
  have binary : ∀ level : Level, Reads v constant (·.Compiled v constant) ts
      (readLevel v n level.next ts >>= fun read => readOperators v n level read.1 read.2) := by
    intro level
    refine (readers.level level.next ts).bind fun left rest compiled => ?_
    exact readers.operators level left rest compiled
  cases level with
  | path => exact readers.path ts
  | sign =>
    rw [readLevel]
    split
    · refine ((readers.level .sign _).bind fun e rest compiled => ?_).advance
      exact Reads.done (Expr.throughout_iff.mpr
        ⟨trivial,fun p member => List.mem_singleton.mp member ▸ compiled⟩)
    · exact readers.level .union ts
  | disjunction => exact binary .disjunction
  | conjunction => exact binary .conjunction
  | comparison => exact binary .comparison
  | sum => exact binary .sum
  | product => exact binary .product
  | union => exact binary .union

theorem readOperators_step (readers : Readers v constant n) (level : Level) (left : Expr)
    (ts : List Token) (compiled : left.Compiled v constant) :
    Reads v constant (·.Compiled v constant) ts (readOperators v (n + 1) level left ts) := by
  rw [readOperators]
  split
  · exact Reads.done compiled
  · rename_i combine found
    refine ((readers.level level.next _).bind fun right rest both => ?_).advance
    have pair : (combine left right).parts = [left,right] ∧ (combine left right).Sound v constant :=
      operator_pair found left right
    have whole := compiled_pair pair.1 pair.2 compiled both
    dsimp only
    split
    · exact Reads.done whole
    · exact readers.operators level _ rest whole

theorem compiled_path {origin : Origin} {steps : List Step} (some : steps ≠ [])
    (start : ∀ p ∈ origin.parts, p.Compiled v constant) (all : ∀ s ∈ steps, s.Compiled v constant) :
    (Expr.path origin steps).Compiled v constant := by
  refine Expr.throughout_iff.mpr ⟨some,fun p member => ?_⟩
  rcases List.mem_append.mp member with first | later
  · exact start p first
  · obtain ⟨s,among,inside⟩ := List.mem_flatMap.mp later
    exact all s among p inside

theorem descendantSteps_compiled {s : Step} (compiled : s.Compiled v constant) :
    descendantSteps s ≠ [] ∧ ∀ t ∈ descendantSteps s, t.Compiled v constant := by
  unfold descendantSteps
  split
  · refine ⟨List.cons_ne_nil _ _,fun t member p inside => ?_⟩
    cases List.mem_singleton.mp member
    cases inside
  · refine ⟨List.cons_ne_nil _ _,fun t member => ?_⟩
    rcases List.mem_cons.mp member with rfl | last
    · intro p inside
      cases inside
    · exact List.mem_singleton.mp last ▸ compiled

theorem continued_compiled {predicates : List Expr} {steps : List Step}
    (compiled : e.Compiled v constant) (kept : ∀ p ∈ predicates, p.Compiled v constant)
    (all : ∀ s ∈ steps, s.Compiled v constant) :
    (continued (filtered e predicates) steps).Compiled v constant := by
  have inner : (filtered e predicates).Compiled v constant := by
    unfold filtered
    split
    · exact compiled
    · rename_i some
      refine Expr.throughout_iff.mpr ⟨fun none => some (none ▸ rfl),fun p member => ?_⟩
      rcases List.mem_cons.mp member with rfl | later
      · exact compiled
      · exact kept p later
  unfold continued
  split
  · exact inner
  · rename_i some
    exact compiled_path (fun none => some (none ▸ rfl))
      (fun p member => List.mem_singleton.mp member ▸ inner) all

theorem readPath_step (readers : Readers v constant n) (ts : List Token) :
    Reads v constant (·.Compiled v constant) ts (readPath v (n + 1) ts) := by
  rw [readPath]
  split
  · split
    · refine ((readers.step _).bind fun s rest first => ?_).advance
      refine (readers.steps rest).bind fun steps rest later => ?_
      refine Reads.done (compiled_path (List.cons_ne_nil _ _) (fun p none => absurd none List.not_mem_nil) ?_)
      exact List.forall_mem_cons.mpr ⟨first,later⟩
    · exact Reads.error _
  · split
    · split
      · refine ((readers.step _).bind fun s rest first => ?_).advance
        refine (readers.steps rest).bind fun steps rest later => ?_
        obtain ⟨some,all⟩ := descendantSteps_compiled first
        refine Reads.done (compiled_path (List.append_ne_nil_of_left_ne_nil some _)
          (fun p none => absurd none List.not_mem_nil) fun s member => ?_)
        rcases List.mem_append.mp member with early | late
        · exact all s early
        · exact later s late
      · exact Reads.error _
    · split
      · refine (readers.primary ts).bind fun e rest compiled => ?_
        refine (readers.predicates rest).bind fun predicates rest kept => ?_
        refine (readers.steps rest).bind fun steps rest all => ?_
        exact Reads.done (continued_compiled compiled kept all)
      · split
        · split
          · have focus : Expr.focus.Compiled v constant := compiled_leaf rfl trivial
            exact (Reads.done focus).advance
          · refine (readers.step ts).bind fun s rest first => ?_
            refine (readers.steps rest).bind fun steps rest later => ?_
            refine Reads.done (compiled_path (List.cons_ne_nil _ _) (fun p none => absurd none List.not_mem_nil) ?_)
            exact List.forall_mem_cons.mpr ⟨first,later⟩
        · exact Reads.error _

theorem readSteps_step (readers : Readers v constant n) (ts : List Token) :
    Reads v constant (∀ s ∈ ·, s.Compiled v constant) ts (readSteps v (n + 1) ts) := by
  rw [readSteps]
  split
  · refine ((readers.step _).bind fun s rest first => ?_).advance
    refine (readers.steps rest).bind fun steps rest later => ?_
    exact Reads.done (List.forall_mem_cons.mpr ⟨first,later⟩)
  · split
    · split
      · refine ((readers.step _).bind fun s rest first => ?_).advance
        refine (readers.steps rest).bind fun steps rest later => ?_
        exact Reads.done (List.forall_mem_append.mpr ⟨(descendantSteps_compiled first).2,later⟩)
      · exact Reads.error _
    · exact Reads.done fun s member => absurd member List.not_mem_nil

theorem readStep_step (readers : Readers v constant n) (ts : List Token) :
    Reads v constant (·.Compiled v constant) ts (readStep v (n + 1) ts) := by
  rw [readStep]
  refine readAxisTest_then fun axis test rest => ?_
  exact (readers.predicates rest).bind fun predicates rest all => Reads.done all

theorem readPredicates_step (readers : Readers v constant n) (ts : List Token) :
    Reads v constant (∀ p ∈ ·, p.Compiled v constant) ts (readPredicates v (n + 1) ts) := by
  rw [readPredicates]
  split
  · refine ((readers.level .disjunction _).bind fun e rest first => ?_).advance
    refine Reads.expect ((readers.predicates _).bind fun es rest later => ?_)
    exact Reads.done (List.forall_mem_cons.mpr ⟨first,later⟩)
  · exact Reads.done fun p member => absurd member List.not_mem_nil

theorem readPrimary_step (readers : Readers v constant n) (ts : List Token) :
    Reads v constant (·.Compiled v constant) ts (readPrimary v (n + 1) ts) := by
  intro supplies
  have literal : ∀ value : Value, value.Literal → (Expr.const value).Compiled v constant :=
    fun value plain => compiled_leaf rfl (supplies.1 value plain)
  revert supplies
  rw [readPrimary]
  dsimp only
  split
  · exact (Reads.done (literal _ (.inr (.inl ⟨_,rfl⟩)))).advance
  · exact (Reads.done (literal _ (.inr (.inr ⟨_,rfl⟩)))).advance
  · rename_i dollar
    split
    · rename_i name _
      intro supplies
      unfold Vocabulary.variable
      cases found : v.bindings.lookup name with
      | none => trivial
      | some value =>
        have known := supplies.2 (front_mem dollar (by decide)) name value found
        refine ⟨compiled_leaf rfl known,?_⟩
        exact (advance_suffix _).trans (advance_suffix _)
    · exact Reads.error _
  · split
    · exact Reads.suffix ((advance_suffix _).trans (advance_suffix _)) (Reads.done (literal _ (.inl rfl)))
    · refine ((readers.level .disjunction _).bind fun e rest compiled => ?_).advance
      exact Reads.expect (Reads.done compiled)
  · rename_i name _
    refine (Reads.expect ((readers.arguments _).bind fun args rest all => ?_)).advance
    dsimp only
    cases called : v.call name args with
    | error f => exact Reads.error f
    | ok e =>
      obtain ⟨f,rfl,_⟩ := call_sound called
      exact Reads.done (Expr.throughout_iff.mpr ⟨⟨name,called⟩,all⟩)
  · exact Reads.error _

theorem readArguments_step (readers : Readers v constant n) (ts : List Token) :
    Reads v constant (∀ a ∈ ·, a.Compiled v constant) ts (readArguments v (n + 1) ts) := by
  rw [readArguments]
  split
  · exact Reads.advance (Reads.done fun a member => absurd member List.not_mem_nil)
  · exact readers.argumentList ts

theorem readArgumentList_step (readers : Readers v constant n) (ts : List Token) :
    Reads v constant (∀ a ∈ ·, a.Compiled v constant) ts (readArgumentList v (n + 1) ts) := by
  rw [readArgumentList]
  refine (readers.level .disjunction ts).bind fun e rest first => ?_
  dsimp only
  split
  · refine ((readers.argumentList _).bind fun es rest later => ?_).advance
    exact Reads.done (List.forall_mem_cons.mpr ⟨first,later⟩)
  · exact Reads.expect (Reads.done (List.forall_mem_singleton.mpr first))

theorem readers_sound (v : Vocabulary) (constant : Value → Prop) (n : Nat) : Readers v constant n := by
  induction n with
  | zero =>
    constructor
    all_goals intros; exact Reads.error _
  | succ n readers =>
    exact ⟨readLevel_step readers,readOperators_step readers,readPath_step readers,
      readSteps_step readers,readStep_step readers,readPredicates_step readers,
      readPrimary_step readers,readArguments_step readers,readArgumentList_step readers⟩

theorem parse_compiled (supplies : v.Supplies constant ts) (accepted : parse v ts = .ok e) :
    e.Compiled v constant := by
  have ends := (readers_sound v constant (depthAllowance ts)).level .disjunction ts supplies
  obtain ⟨read,done,stopped⟩ := bind_ok accepted
  have compiled := (ends.value done).1
  dsimp only at stopped
  split at stopped
  · cases stopped
    exact compiled
  · cases stopped

end TreeAudit.Query
