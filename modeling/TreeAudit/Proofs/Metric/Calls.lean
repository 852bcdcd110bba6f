import TreeAudit.Proofs.Metric.Reliable
import TreeAudit.Proofs.Tree.Building

-- Sequences of requests for metrics on one tree. An answer is the one that a tree with an empty memo gives, as
-- long as no earlier request had options of the same written form that differ in a name the metric knows.
namespace TreeAudit

section Runs
variable {fine : Memo → Prop} {g : α → StateM Memo β} {a : α} {b : β} {as : List α} {memo : Memo} {i : Nat}

theorem mapM_run (g : α → StateM Memo β) (a : α) (as : List α) (memo : Memo) :
    (((a :: as).mapM g).run memo).1 =
      ((g a).run memo).1 :: ((as.mapM g).run ((g a).run memo).2).1 := by
  rw [List.mapM_cons]
  rfl

theorem mapM_run_length (g : α → StateM Memo β) (as : List α) (memo : Memo) :
    ((as.mapM g).run memo).1.length = as.length := by
  induction as generalizing memo with
  | nil => rfl
  | cons a as ih => rw [mapM_run,List.length_cons,ih,List.length_cons]

-- What comes before a place only has to keep what the computation there relies on.
theorem mapM_at (place : as[i]? = some a) (before : ∀ c ∈ as.take i, Keeps fine (g c))
    (last : Yields fine (g a) b) (start : fine memo) : ((as.mapM g).run memo).1[i]? = some b := by
  induction as generalizing i memo with
  | nil => cases place
  | cons c as ih =>
    rw [mapM_run]
    cases i with
    | zero =>
      obtain rfl := Option.some.inj place
      obtain ⟨later,_,ran⟩ := last memo start
      rw [ran]
      rfl
    | succ i =>
      obtain ⟨first,others⟩ := List.forall_mem_cons.mp before
      exact ih place others (first memo start)

end Runs

-- A request for a metric: by its key, with the options that it requires, or by the metric itself.
inductive MetricCall
  | named (key : String) (o : MetricOptions) (id : NodeId)
  | memoized (m : Metric) (o : MetricOptions) (id : NodeId)

namespace MetricCall

def options : MetricCall → MetricOptions
  | named _ o _ => o
  | memoized _ o _ => o

def node : MetricCall → NodeId
  | named _ _ id => id
  | memoized _ _ id => id

-- The metric that is asked for, or the mistake of the caller.
def asked (l : Language) : MetricCall → Except Query.Failure Metric
  | named key o _ =>
    match Metric.withKey? l.metrics key with
    | none => .error (.badArgument (.unknownMetric key))
    | some m =>
      match m.missingOption? o with
      | some option => .error (.badArgument (.missingOption m.key option))
      | none => .ok m
  | memoized m _ _ => .ok m

-- The answer on a tree whose memo is empty, found without looking there.
def fresh (l : Language) (t : Tree) (call : MetricCall) : Except Query.Failure (Option Float) :=
  (fun m => m.value t call.options call.node) <$> call.asked l

def answer (l : Language) (t : Tree) : MetricCall → StateM Memo (Except Query.Failure (Option Float))
  | named key o id => l.metricNamed t key o id
  | memoized m o id => do pure (.ok (← m.computeMemoized t o id))

-- The answers to requests that are made one after the other on a tree.
def answers (l : Language) (t : Tree) (calls : List MetricCall) : List (Except Query.Failure (Option Float)) :=
  ((calls.mapM (answer l t)).run Memo.empty).1

-- Requests are made for metrics of the language.
def Of (l : Language) : MetricCall → Prop
  | named _ _ _ => True
  | memoized m _ _ => m ∈ l.metrics

section Answers
variable {l : Language} {t : Tree} {call : MetricCall} {calls : List MetricCall} {m : Metric} {i : Nat}
  {known : List String} {o : MetricOptions}

theorem answer_eq (l : Language) (t : Tree) (call : MetricCall) : call.answer l t =
    match call.asked l with
    | .error f => pure (.error f)
    | .ok m => m.computeMemoized t call.options call.node >>= fun v => pure (.ok v) := by
  cases call with
  | memoized m o id => rfl
  | named key o id =>
    rw [answer,Language.metricNamed,asked]
    cases Metric.withKey? l.metrics key with
    | none => rfl
    | some m => cases complete : m.missingOption? o <;> simp only [complete,options,node]

theorem asked_member (own : call.Of l) (found : call.asked l = .ok m) : m ∈ l.metrics := by
  cases call with
  | memoized m o id =>
    cases found
    exact own
  | named key o id =>
    rw [asked] at found
    split at found
    · cases found
    · rename_i looked
      split at found
      · cases found
      · cases found
        exact List.mem_of_find?_eq_some looked

-- A request enters nothing that a later one could mistake for its own, if their options are compatible.
theorem answer_keeps (reliable : l.Reliable) (own : call.Of l) (compatible : call.options.Compatible known o) :
    Keeps (Memo.Holds l.metrics t known o) (call.answer l t) := by
  cases found : call.asked l with
  | error f =>
    rw [answer_eq,found]
    exact .pure _ _
  | ok m =>
    have member := asked_member own found
    rw [answer_eq,found]
    exact (memoized_keeps reliable.keys member (reliable.metrics m member) compatible).bind fun _ =>
      .pure _ _

theorem answer_exact (reliable : l.Reliable) (own : call.Of l) (found : call.asked l = .ok m) :
    Yields (Memo.Holds l.metrics t m.options call.options) (call.answer l t) (call.fresh l t) := by
  have member := asked_member own found
  rw [answer_eq,fresh,found]
  exact (memoized_exact reliable.keys member (reliable.metrics m member) rfl (fun _ _ => rfl)
    (List.Subset.refl _)).bind (.pure _ _)

theorem answers_at (reliable : l.Reliable) (own : ∀ c ∈ calls, c.Of l) (place : calls[i]? = some call)
    (apart : ∀ m, call.asked l = .ok m → ∀ c ∈ calls.take i, c.options.Compatible m.options call.options) :
    (answers l t calls)[i]? = some (call.fresh l t) := by
  cases found : call.asked l with
  | error f =>
    have last : Yields (fun _ => True) (call.answer l t) (call.fresh l t) := by
      rw [answer_eq,fresh,found]
      exact .pure _ _
    exact mapM_at place (fun _ _ _ _ => trivial) last trivial
  | ok m =>
    refine mapM_at place (fun c before => ?_) (answer_exact reliable (own call ?_) found)
      (Memo.empty_holds l.metrics t m.options call.options)
    · exact answer_keeps reliable (own c (List.mem_of_mem_take before)) (apart m found c before)
    · exact List.mem_of_getElem? place

theorem answers_separable (reliable : l.Reliable) (own : ∀ c ∈ calls, c.Of l)
    (separable : ∀ c ∈ calls, c.options.Separable) : answers l t calls = calls.map (·.fresh l t) := by
  refine List.ext_getElem? fun i => ?_
  rw [List.getElem?_map]
  cases place : calls[i]? with
  | none =>
    rw [List.getElem?_eq_none_iff] at place
    exact List.getElem?_eq_none (Nat.le_trans (Nat.le_of_eq (mapM_run_length (answer l t) calls Memo.empty)) place)
  | some call =>
    refine answers_at reliable own place fun m _ c before written => ?_
    have one := separable c (List.mem_of_mem_take before)
    rw [MetricOptions.written_injective one (separable call (List.mem_of_getElem? place)) written]
    exact fun _ _ => rfl

end Answers

-- What a request is answered does not depend on the requests before it, unless one of them had options that
-- are written like its own and differ from them in a name that the metric knows. Where no name is empty or
-- has a comma, all answers are those of a tree with an empty memo. This holds of each language whose metrics
-- have keys of their own, ask each other under their own options and heed the names they know only, and the
-- built-in languages are such.
theorem answers_exact (l : Language) (t : Tree) (calls : List MetricCall) :
    (l ∈ Registry.builtIn.languages → l.Reliable) ∧
    (l.Reliable → (∀ c ∈ calls, c.Of l) →
      (answers l t calls).length = calls.length ∧
      (∀ i call, calls[i]? = some call →
        (∀ m, call.asked l = .ok m → ∀ c ∈ calls.take i, c.options.Compatible m.options call.options) →
        (answers l t calls)[i]? = some (call.fresh l t)) ∧
      ((∀ c ∈ calls, c.options.Separable) → answers l t calls = calls.map (·.fresh l t))) := by
  refine ⟨builtIn_reliable l,fun reliable own => ⟨mapM_run_length (answer l t) calls Memo.empty,?_,?_⟩⟩
  · exact fun i call place apart => answers_at reliable own place apart
  · exact answers_separable reliable own

-- A method whose body is an assertion.
def assertingSteps : List BuildStep :=
  let place := fun start stop : Nat => (⟨start,stop,1,start + 1,1,stop + 1⟩ : Span)
  [.openNode "program" none (place 0 22),.openNode "method_declaration" none (place 0 22),
    .leaf "assert_statement" none (place 11 20),.close,.close]

def asserting : Tree := ((Builder.start "java" "A.java" "void m() { assert a; }").run assertingSteps).tree

-- The method without its assertion and with it, and a key that no metric has; then two sets of options that are
-- written alike, of names that no metric knows.
theorem answers_exact_sample :
    let plain : MetricCall := .memoized Java.cyclo .empty 1
    let asserted : MetricCall := .named "cyclo" (.ofNames ["considerAssert"]) 1
    let unknown : MetricCall := .named "COGNITIVE" .empty 1
    let parted : MetricCall := .named "CYCLO" (.ofNames ["a","b"]) 1
    let joined : MetricCall := .named "CYCLO" (.ofNames ["a,b"]) 1
    Java.language.Reliable ∧
      answers Java.language asserting [plain,asserted,unknown] =
        [plain,asserted,unknown].map (·.fresh Java.language asserting) ∧
      plain.fresh Java.language asserting = .ok (some 1) ∧
      asserted.fresh Java.language asserting = .ok (some 2) ∧
      unknown.fresh Java.language asserting = .error (.badArgument (.unknownMetric "COGNITIVE")) ∧
      parted.options.written = joined.options.written ∧
      (answers Java.language asserting [parted,joined])[1]? = some (joined.fresh Java.language asserting) := by
  intro plain asserted unknown parted joined
  have reliable : Java.language.Reliable := (answers_exact _ asserting []).1 List.mem_cons_self
  have own : ∀ c ∈ [plain,asserted,unknown], c.Of Java.language := by
    simp only [List.forall_mem_cons,List.not_mem_nil,false_implies,implies_true,and_true]
    exact ⟨List.mem_cons_self,trivial,trivial⟩
  have separable : ∀ c ∈ [plain,asserted,unknown], c.options.Separable := by
    unfold MetricOptions.Separable
    decide +kernel
  have named : ∀ c ∈ [parted,joined], c.Of Java.language :=
    List.forall_mem_cons.mpr ⟨trivial,List.forall_mem_singleton.mpr trivial⟩
  refine ⟨reliable,((answers_exact _ asserting _).2 reliable own).2.2 separable,by decide +kernel,
    by decide +kernel,rfl,by decide +kernel,?_⟩
  refine ((answers_exact _ asserting _).2 reliable named).2.1 1 joined rfl fun m found c before _ => ?_
  obtain rfl := List.mem_singleton.mp before
  obtain rfl : Java.cyclo = m := Except.ok.inj (show joined.asked Java.language = _ from found)
  unfold MetricOptions.Agree
  decide +kernel

-- One option whose name joins the names of two others. A method is measured without its assertion, as no metric
-- knows that name, and the request for the two options is answered with this measure.
theorem answers_forgetful :
    let joined : MetricCall := .named "CYCLO" (.ofNames ["considerAssert,ignoreBooleanPaths"]) 1
    let parted : MetricCall := .named "CYCLO" (.ofNames ["considerAssert","ignoreBooleanPaths"]) 1
    asserting.Built ∧
      answers Java.language asserting [joined,parted] = [.ok (some 1),.ok (some 1)] ∧
      [joined,parted].map (·.fresh Java.language asserting) = [.ok (some 1),.ok (some 2)] ∧
      answers Java.language asserting [joined,parted] ≠
        [joined,parted].map (·.fresh Java.language asserting) := by
  intro joined parted
  exact ⟨⟨_,_,_,assertingSteps,by rfl⟩,by decide +kernel,by decide +kernel,by decide +kernel⟩

end MetricCall

end TreeAudit
