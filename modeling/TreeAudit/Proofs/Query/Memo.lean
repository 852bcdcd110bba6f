import TreeAudit.Languages
import TreeAudit.Registry
import TreeAudit.Proofs.Query.Outcome

-- What the memo of a tree may hold. Its entries are the values that the metrics have without a memo; a
-- metric or function is steady if, from a memo of such entries, it gives what it gives without one and
-- leaves such a memo behind. The functions of all languages and the built-in languages are steady.
namespace TreeAudit

-- From every memo that is fine the computation gives this result, and leaves a memo that is fine.
def Yields (fine : Memo → Prop) (x : StateM Memo α) (a : α) : Prop :=
  ∀ memo, fine memo → ∃ later, fine later ∧ x.run memo = (a,later)

section Yields
variable {fine : Memo → Prop} {x : StateM Memo α} {g : α → StateM Memo β} {a : α} {b : β}

theorem Yields.pure (fine : Memo → Prop) (a : α) : Yields fine (pure a) a :=
  fun memo start => ⟨memo,start,rfl⟩

theorem Yields.bind (first : Yields fine x a) (next : Yields fine (g a) b) : Yields fine (x >>= g) b := by
  intro memo start
  obtain ⟨middle,kept,ran⟩ := first memo start
  obtain ⟨later,last,went⟩ := next middle kept
  refine ⟨later,last,?_⟩
  rw [StateT.run_bind,ran]
  exact went

theorem Yields.mapM {f : α → β} (each : ∀ a, Yields fine (g a) (f a)) (as : List α) :
    Yields fine (as.mapM g) (as.map f) := by
  induction as with
  | nil => exact .pure fine []
  | cons a as ih =>
    rw [List.mapM_cons]
    exact (each a).bind (ih.bind (.pure fine _))

-- The result is the one that the empty memo gives.
theorem Yields.fresh (yields : Yields fine x a) (empty : fine Memo.empty) : (x Memo.empty).1 = a := by
  obtain ⟨later,_,ran⟩ := yields Memo.empty empty
  exact congrArg Prod.fst ran

end Yields

namespace Query

-- The same of a computation that can fail.
def Recalls (fine : Memo → Prop) (x : Recalling α) (y : Except Failure α) : Prop := Yields fine x.run y

section Recalls
variable {fine : Memo → Prop} {x : Recalling α} {y : Except Failure α} {g : α → Recalling β}
  {h : α → Except Failure β}

theorem Recalls.lift (fine : Memo → Prop) (y : Except Failure α) : Recalls fine (liftM y) y :=
  .pure fine y

theorem Recalls.done (fine : Memo → Prop) (a : α) : Recalls fine (pure a) (.ok a) := .pure fine _

theorem Recalls.measured {z : StateM Memo α} {a : α} (yields : Yields fine z a) :
    Recalls fine (liftM z) (.ok a) :=
  Yields.bind (g := fun a => pure (Except.ok a)) yields (.pure fine _)

theorem Recalls.follow (first : Recalls fine x y) (next : ∀ a, y = .ok a → Recalls fine (g a) (h a)) :
    Recalls fine (x >>= g) (y >>= h) := by
  unfold Recalls
  rw [ExceptT.run_bind]
  refine Yields.bind first ?_
  cases y with
  | error f => exact .pure fine _
  | ok a => exact next a rfl

theorem Recalls.bind (first : Recalls fine x y) (next : ∀ a, Recalls fine (g a) (h a)) :
    Recalls fine (x >>= g) (y >>= h) :=
  first.follow fun a _ => next a

theorem Recalls.mapM (each : ∀ a, Recalls fine (g a) (h a)) (as : List α) :
    Recalls fine (as.mapM g) (as.mapM h) := by
  induction as with
  | nil => exact .done fine []
  | cons a as ih =>
    rw [List.mapM_cons,List.mapM_cons]
    exact (each a).bind fun b => ih.bind fun bs => .done fine _

end Recalls

end Query

-- What a memo holds on the metrics of a language, as far as queries look at it: entries without options.
def Memo.Truthful (ms : List Metric) (t : Tree) (memo : Memo) : Prop :=
  ∀ key m id v, Metric.withKey? ms key = some m →
    memo.find? ⟨id,m.key,MetricOptions.empty.written⟩ = some v → v = m.value t .empty id

-- A metric whose value does not depend on what was measured before, and which notes nothing else.
def Metric.Steady (ms : List Metric) (m : Metric) : Prop :=
  ∀ t id, Yields (Memo.Truthful ms t) (m.compute t .empty id) (m.value t .empty id)

def Metric.AllSteady (ms : List Metric) : Prop :=
  ∀ key m, Metric.withKey? ms key = some m → m.Steady ms

-- A function whose answer does not depend on the memo.
def Query.QueryFunction.Steady (f : QueryFunction) : Prop :=
  ∀ site values, Metric.AllSteady site.metrics →
    Recalls (Memo.Truthful site.metrics site.tree) (f.recalled site values) (f.call site values)

-- Metrics and functions are handed the whole memo here. One that only asks it for measured values cannot tell
-- what is in it, and is steady.
structure Language.Steady (l : Language) : Prop where
  metrics : Metric.AllSteady l.metrics
  functions : ∀ f ∈ l.functions, f.Steady

section Metrics
variable {ms : List Metric} {m n : Metric} {t : Tree} {o : MetricOptions} {key other : String}
  {id : NodeId} {memo later : Memo} {v : Option Float}

theorem Memo.empty_truthful (ms : List Metric) (t : Tree) : Memo.empty.Truthful ms t := by
  intro key m id v _ found
  cases found

-- A key is looked up by its form in lower case, so two look-ups that come to the same key come to the
-- same metric.
theorem withKey_unique (one : Metric.withKey? ms key = some m) (two : Metric.withKey? ms other = some n)
    (same : m.key = n.key) : m = n := by
  have first := List.find?_some one
  have second := List.find?_some two
  rw [Text.equalIgnoringCase_iff] at first second
  have keys : Text.lowerAscii key = Text.lowerAscii other := by rw [← first,← second,same]
  have alike : Metric.withKey? ms key = Metric.withKey? ms other := by
    unfold Metric.withKey?
    refine congrArg (List.find? · ms) (funext fun m => ?_)
    rw [Bool.eq_iff_iff,Text.equalIgnoringCase_iff,Text.equalIgnoringCase_iff,keys]
  rw [one,two] at alike
  exact Option.some.inj alike

theorem find_insert (memo : Memo) (k other : MemoKey) (v : Option Float) :
    (memo.insert k v).find? other = if other = k then some v else memo.find? other := by
  rw [Memo.find?,Memo.insert,List.lookup_cons]
  by_cases same : other = k
  · rw [if_pos same,beq_iff_eq.mpr same]
  · rw [if_neg same,beq_false_of_ne same]
    rfl

theorem insert_truthful (found : Metric.withKey? ms key = some m) (truthful : memo.Truthful ms t) :
    (memo.insert ⟨id,m.key,MetricOptions.empty.written⟩ (m.value t .empty id)).Truthful ms t := by
  intro other n place v known looked
  rw [find_insert] at looked
  split at looked
  · rename_i equal
    obtain ⟨rfl,keys,_⟩ := MemoKey.mk.inj equal
    rw [withKey_unique known found keys]
    exact (Option.some.inj looked).symm
  · exact truthful other n place v known looked

theorem computeMemoized_known (looked : memo.find? ⟨id,m.key,o.written⟩ = some v) :
    (m.computeMemoized t o id).run memo = (v,memo) := by
  rw [Metric.computeMemoized,StateT.run_bind,StateT.run_get,pure_bind,looked]
  rfl

theorem computeMemoized_new (looked : memo.find? ⟨id,m.key,o.written⟩ = none)
    (ran : (m.compute t o id).run memo = (v,later)) :
    (m.computeMemoized t o id).run memo = (v,later.insert ⟨id,m.key,o.written⟩ v) := by
  rw [Metric.computeMemoized,StateT.run_bind,StateT.run_get,pure_bind,looked]
  dsimp only
  rw [StateT.run_bind,ran]
  rfl

-- A value that is looked up is the one that would be measured, if the memo holds no other there.
theorem lookup_yields {fine : Memo → Prop}
    (held : ∀ memo w, fine memo → memo.find? ⟨id,m.key,o.written⟩ = some w → w = v)
    (noted : ∀ memo, fine memo → fine (memo.insert ⟨id,m.key,o.written⟩ v))
    (computed : Yields fine (m.compute t o id) v) : Yields fine (m.computeMemoized t o id) v := by
  intro memo start
  cases looked : memo.find? ⟨id,m.key,o.written⟩ with
  | some w =>
    obtain rfl := held memo w start looked
    exact ⟨memo,start,computeMemoized_known looked⟩
  | none =>
    obtain ⟨later,kept,ran⟩ := computed memo start
    exact ⟨_,noted later kept,computeMemoized_new looked ran⟩

theorem computeMemoized_yields (found : Metric.withKey? ms key = some m) (steady : m.Steady ms)
    (t : Tree) (id : NodeId) :
    Yields (Memo.Truthful ms t) (m.computeMemoized t .empty id) (m.value t .empty id) :=
  lookup_yields (fun _ w truthful looked => truthful key m id w found looked)
    (fun _ truthful => insert_truthful found truthful) (steady t id)

-- What a metric measures, as far as it comes to the same from every memo that is fine.
theorem compute_yields {fine : Memo → Prop} {p : MetricOptions} {x : Float}
    (measured : Yields fine (m.measure t p id) x) (own : Yields fine (m.measure t o id) x)
    (empty : fine Memo.empty) : Yields fine (m.compute t p id) (m.value t o id) := by
  have computed : ∀ {o : MetricOptions}, Yields fine (m.measure t o id) x → Yields fine (m.compute t o id)
      (if m.applies t id then if x.isFinite then some x else none else none) := by
    intro o measured
    unfold Metric.compute
    split
    · exact measured.bind (.pure fine _)
    · exact .pure fine _
  rw [Metric.value,(computed own).fresh empty]
  exact computed measured

theorem steady_of_measure (measured : ∀ t id, ∃ x, Yields (Memo.Truthful ms t) (m.measure t .empty id) x) :
    m.Steady ms := by
  intro t id
  obtain ⟨x,yields⟩ := measured t id
  exact compute_yields yields yields (Memo.empty_truthful ms t)

end Metrics

-- The sum over a type asks for the operations of the type one by one.
theorem wmc_yields {fine : Memo → Prop} {t : Tree} {o p : MetricOptions} {id : NodeId}
    (each : ∀ n, Yields fine (Java.cyclo.computeMemoized t p n) (Java.cyclo.value t o n)) :
    Yields fine (Java.wmc.measure t p id)
      (Java.sum (((Java.operations t id).map (Java.cyclo.value t o)).filterMap fun v => v)) :=
  (Yields.mapM each (Java.operations t id)).bind (.pure fine _)

theorem java_metrics_steady : Metric.AllSteady Java.metrics := by
  have cyclo : Java.cyclo.Steady Java.metrics := steady_of_measure fun t id => ⟨_,.pure _ _⟩
  have all : ∀ m ∈ Java.metrics, m.Steady Java.metrics := by
    simp only [Java.metrics,List.forall_mem_cons,List.not_mem_nil,false_implies,implies_true,and_true]
    refine ⟨cyclo,?_,?_,?_,?_⟩
    · exact steady_of_measure fun t id => ⟨_,.pure _ _⟩
    · exact steady_of_measure fun t id => ⟨_,.pure _ _⟩
    · intro t id
      have known : Metric.withKey? Java.metrics "CYCLO" = some Java.cyclo := rfl
      have each := computeMemoized_yields known cyclo t
      exact compute_yields (wmc_yields each) (wmc_yields each) (Memo.empty_truthful _ t)
    · exact steady_of_measure fun t id => ⟨_,.pure _ _⟩
  exact fun key m found => all m (List.mem_of_find?_eq_some found)

theorem python_metrics_steady : Metric.AllSteady Python.metrics := by
  have all : ∀ m ∈ Python.metrics, m.Steady Python.metrics := by
    simp only [Python.metrics,List.forall_mem_cons,List.not_mem_nil,false_implies,implies_true,and_true]
    exact ⟨steady_of_measure fun t id => ⟨_,.pure _ _⟩,steady_of_measure fun t id => ⟨_,.pure _ _⟩,
      steady_of_measure fun t id => ⟨_,.pure _ _⟩⟩
  exact fun key m found => all m (List.mem_of_find?_eq_some found)

namespace Query
variable {f : QueryFunction}

-- A function that has no use for the memo.
theorem steady_of_direct (direct : f.recalled = fun c args => ExceptT.mk (pure (f.call c args))) : f.Steady := by
  intro site values _
  unfold Recalls
  rw [direct]
  exact .pure _ _

theorem recalledMetric_recalls {site : CallSite} (steady : Metric.AllSteady site.metrics) (key : String) :
    Recalls (Memo.Truthful site.metrics site.tree) (recalledMetric site key) (metricValue site key) := by
  unfold recalledMetric metricValue
  split
  · exact .lift _ (.error _)
  · rename_i m found
    refine Recalls.bind (.lift _ _) fun id => ?_
    have looked := computeMemoized_yields found (steady key m found) site.tree id
    exact (Recalls.measured looked).bind fun value => .done _ _

theorem coreFunctions_steady (read : PatternReader) : ∀ f ∈ coreFunctions read, f.Steady := by
  simp only [coreFunctions,List.forall_mem_cons,List.not_mem_nil,false_implies,implies_true,and_true]
  and_intros
  iterate 19 exact steady_of_direct rfl
  exact fun site values steady => recalledMetric_recalls steady _

end Query

theorem java_steady : Java.language.Steady := by
  refine ⟨java_metrics_steady,?_⟩
  exact List.forall_mem_cons.mpr ⟨Query.steady_of_direct rfl,List.forall_mem_singleton.mpr
    (Query.steady_of_direct rfl)⟩

theorem python_steady : Python.language.Steady :=
  ⟨python_metrics_steady,List.forall_mem_singleton.mpr (Query.steady_of_direct rfl)⟩

theorem builtIn_steady : ∀ l ∈ Registry.builtIn.languages, l.Steady :=
  List.forall_mem_cons.mpr ⟨java_steady,List.forall_mem_singleton.mpr python_steady⟩

end TreeAudit
