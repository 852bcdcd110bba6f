import Mathlib.Data.List.Nodup
import TreeAudit.Proofs.Query.Memo

-- Metrics whose values do not depend on the memo, whatever the options are. The memo is asked under the written
-- form of the options. A metric is reliable if it gives its value as long as what stands there was entered
-- under options that agree on the names it knows, and if it enters nothing wrong under its own options. The
-- metrics of the built-in languages are reliable.
namespace TreeAudit

namespace MetricOptions
variable {o p : MetricOptions}

-- Both sets have the same ones of some names.
def Agree (known : List String) (p o : MetricOptions) : Prop :=
  ∀ name ∈ known, p.contains name = o.contains name

-- What is written alike agrees.
def Compatible (known : List String) (p o : MetricOptions) : Prop :=
  p.written = o.written → p.Agree known o

-- Names that can be told apart once they are joined by commas.
def Separable (o : MetricOptions) : Prop := ∀ name ∈ o.names, name ≠ "" ∧ ',' ∉ name.toList

theorem split_written (separable : o.Separable) :
    (o.written.toList.splitOn ',').filter (· ≠ []) = o.names.map String.toList := by
  have joined : o.written.toList = [','].intercalate (o.names.map String.toList) := String.toList_intercalate
  rw [joined]
  by_cases none : o.names = []
  · rw [none]
    rfl
  · rw [List.splitOn_intercalate ',' ?_ (by simpa using none)]
    · rw [List.filter_eq_self]
      intro part member
      obtain ⟨name,among,rfl⟩ := List.mem_map.mp member
      simpa using (separable name among).1
    · intro part member
      obtain ⟨name,among,rfl⟩ := List.mem_map.mp member
      exact (separable name among).2

theorem written_injective (one : o.Separable) (two : p.Separable) (same : o.written = p.written) : o = p := by
  have names : o.names.map String.toList = p.names.map String.toList := by
    rw [← split_written one,← split_written two,same]
  exact congrArg MetricOptions.mk ((List.map_inj_right fun _ _ => String.toList_injective).mp names)

end MetricOptions

-- From every memo that is fine the computation leaves one that is fine.
def Keeps (fine : Memo → Prop) (x : StateM Memo α) : Prop := ∀ memo, fine memo → fine (x.run memo).2

section Keeps
variable {fine : Memo → Prop} {x : StateM Memo α} {g : α → StateM Memo β} {a : α}

theorem Yields.keeps (yields : Yields fine x a) : Keeps fine x := by
  intro memo start
  obtain ⟨later,kept,ran⟩ := yields memo start
  rw [ran]
  exact kept

theorem Keeps.pure (fine : Memo → Prop) (a : α) : Keeps fine (pure a) := (Yields.pure fine a).keeps

theorem Keeps.bind (first : Keeps fine x) (next : ∀ a, Keeps fine (g a)) : Keeps fine (x >>= g) := by
  intro memo start
  rw [StateT.run_bind]
  exact next _ _ (first memo start)

theorem Keeps.mapM (each : ∀ a, Keeps fine (g a)) (as : List α) : Keeps fine (as.mapM g) := by
  induction as with
  | nil => exact .pure fine []
  | cons a as ih =>
    rw [List.mapM_cons]
    exact (each a).bind fun b => ih.bind fun bs => .pure fine _

end Keeps

-- What a memo holds under the written form of a set of options, on the metrics that know no other names than
-- the given ones.
def Memo.Holds (ms : List Metric) (t : Tree) (known : List String) (o : MetricOptions) (memo : Memo) : Prop :=
  ∀ m ∈ ms, m.options ⊆ known → ∀ id v, memo.find? ⟨id,m.key,o.written⟩ = some v → v = m.value t o id

-- A metric that asks other metrics of the language under its own options only, and that heeds no other names
-- than those it knows.
structure Metric.Reliable (ms : List Metric) (m : Metric) : Prop where
  keeps : ∀ t known o p id, p.Compatible known o → Keeps (Memo.Holds ms t known o) (m.compute t p id)
  exact : ∀ t known o p id, p.written = o.written → p.Agree known o → m.options ⊆ known →
    Yields (Memo.Holds ms t known o) (m.compute t p id) (m.value t o id)

-- A metric that measures without the memo, and looks at no other options than those it knows.
def Metric.Direct (m : Metric) : Prop :=
  ∃ number : Tree → MetricOptions → NodeId → Float,
    (∀ t o id, m.measure t o id = pure (number t o id)) ∧
      ∀ t o p id, p.Agree m.options o → number t p id = number t o id

structure Language.Reliable (l : Language) : Prop where
  keys : (l.metrics.map (·.key)).Nodup
  metrics : ∀ m ∈ l.metrics, m.Reliable l.metrics

section Metrics
variable {ms : List Metric} {m : Metric} {t : Tree} {known : List String} {o p : MetricOptions} {id : NodeId}
  {memo : Memo} {v : Option Float}

theorem Memo.empty_holds (ms : List Metric) (t : Tree) (known : List String) (o : MetricOptions) :
    Memo.empty.Holds ms t known o := by
  intro m _ _ id v found
  cases found

theorem insert_holds (keys : (ms.map (·.key)).Nodup) (member : m ∈ ms) (holds : memo.Holds ms t known o)
    (right : p.written = o.written → m.options ⊆ known → v = m.value t o id) :
    (memo.insert ⟨id,m.key,p.written⟩ v).Holds ms t known o := by
  intro n among inside place w looked
  rw [find_insert] at looked
  split at looked
  · rename_i equal
    obtain ⟨rfl,same,written⟩ := MemoKey.mk.inj equal
    obtain rfl := List.inj_on_of_nodup_map keys among member same
    rw [← Option.some.inj looked]
    exact right written.symm inside
  · exact holds n among inside place w looked

theorem memoized_keeps (keys : (ms.map (·.key)).Nodup) (member : m ∈ ms) (reliable : m.Reliable ms)
    (compatible : p.Compatible known o) : Keeps (Memo.Holds ms t known o) (m.computeMemoized t p id) := by
  intro memo start
  cases looked : memo.find? ⟨id,m.key,p.written⟩ with
  | some v =>
    rw [computeMemoized_known looked]
    exact start
  | none =>
    have kept := reliable.keeps t known o p id compatible memo start
    cases ran : (m.compute t p id).run memo with
    | mk v later =>
      rw [ran] at kept
      rw [computeMemoized_new looked ran]
      refine insert_holds keys member kept fun written inside => ?_
      obtain ⟨_,_,same⟩ := reliable.exact t known o p id written (compatible written) inside memo start
      exact congrArg Prod.fst (ran.symm.trans same)

theorem memoized_exact (keys : (ms.map (·.key)).Nodup) (member : m ∈ ms) (reliable : m.Reliable ms)
    (written : p.written = o.written) (agree : p.Agree known o) (inside : m.options ⊆ known) :
    Yields (Memo.Holds ms t known o) (m.computeMemoized t p id) (m.value t o id) := by
  refine lookup_yields (fun memo w holds looked => ?_) (fun memo holds => ?_)
    (reliable.exact t known o p id written agree inside)
  · exact holds m member inside id w (written ▸ looked)
  · exact insert_holds keys member holds fun _ _ => rfl

theorem compute_keeps {fine : Memo → Prop} (measured : Keeps fine (m.measure t p id)) :
    Keeps fine (m.compute t p id) := by
  unfold Metric.compute
  split
  · exact measured.bind fun x => .pure fine _
  · exact .pure fine _

theorem Metric.Direct.reliable (direct : m.Direct) : m.Reliable ms := by
  obtain ⟨number,measures,heeds⟩ := direct
  constructor
  · intro t known o p id _
    refine compute_keeps ?_
    rw [measures]
    exact .pure _ _
  · intro t known o p id _ agree inside
    have same : number t p id = number t o id := heeds t o p id fun name known => agree name (inside known)
    refine compute_yields (x := number t o id) ?_ ?_ (Memo.empty_holds ms t known o)
    · rw [measures,same]
      exact .pure _ _
    · rw [measures]
      exact .pure _ _

theorem direct_of_plain {number : Tree → NodeId → Float}
    (measures : ∀ t o id, m.measure t o id = pure (number t id)) : m.Direct :=
  ⟨fun t _ id => number t id,measures,fun _ _ _ _ _ => rfl⟩

end Metrics

namespace Java
variable {o p : MetricOptions}

theorem cyclomatic_agree (t : Tree) (id : NodeId) (agree : p.Agree cyclo.options o) :
    cyclomatic t p id = cyclomatic t o id := by
  have paths : p.contains ignoreBooleanPaths = o.contains ignoreBooleanPaths := agree _ List.mem_cons_self
  have assertions : p.contains considerAssert = o.contains considerAssert :=
    agree _ (List.mem_cons_of_mem _ List.mem_cons_self)
  have decisions : isDecision t p = isDecision t o := by
    funext n
    rw [isDecision,isDecision,paths,assertions]
  rw [cyclomatic,cyclomatic,decisions]

theorem metrics_keys : (metrics.map (·.key)).Nodup := by decide

theorem cyclo_direct : cyclo.Direct :=
  ⟨_,fun _ _ _ => rfl,fun t _ _ id agree => congrArg Float.ofNat (cyclomatic_agree t id agree)⟩

-- Only the sum over a type asks for values of another metric.
theorem metrics_direct : ∀ m ∈ metrics, m = wmc ∨ m.Direct := by
  unfold metrics
  simp only [List.forall_mem_cons,List.not_mem_nil,false_implies,implies_true,and_true]
  exact ⟨.inr cyclo_direct,.inr (direct_of_plain fun _ _ _ => rfl),.inr (direct_of_plain fun _ _ _ => rfl),.inl trivial,
    .inr (direct_of_plain fun _ _ _ => rfl)⟩

theorem cyclo_reliable : cyclo.Reliable metrics := cyclo_direct.reliable

theorem wmc_reliable : wmc.Reliable metrics := by
  have member : cyclo ∈ metrics := List.mem_cons_self
  constructor
  · intro t known o p id compatible
    have each : ∀ n, Keeps (Memo.Holds metrics t known o) (cyclo.computeMemoized t p n) := fun n =>
      memoized_keeps metrics_keys member cyclo_reliable compatible
    exact compute_keeps ((Keeps.mapM each (operations t id)).bind fun _ => .pure _ _)
  · intro t known o p id written agree inside
    -- What the sum knows is what its summands know.
    have each : ∀ {q : MetricOptions}, q.written = o.written → q.Agree known o → ∀ n,
        Yields (Memo.Holds metrics t known o) (cyclo.computeMemoized t q n) (cyclo.value t o n) :=
      fun written agree n => memoized_exact metrics_keys member cyclo_reliable written agree inside
    exact compute_yields (wmc_yields (each written agree)) (wmc_yields (each rfl fun _ _ => rfl))
      (Memo.empty_holds _ _ _ _)

theorem language_reliable : language.Reliable := by
  refine ⟨metrics_keys,fun m member => ?_⟩
  rcases metrics_direct m member with sum | direct
  · exact sum ▸ wmc_reliable
  · exact direct.reliable

end Java

namespace Python

theorem cyclomatic_agree {o p : MetricOptions} (t : Tree) (id : NodeId) (agree : p.Agree cyclo.options o) :
    cyclomatic t p id = cyclomatic t o id := by
  have paths : p.contains ignoreBooleanPaths = o.contains ignoreBooleanPaths := agree _ List.mem_cons_self
  have decisions : isDecision t p = isDecision t o := by
    funext n
    rw [isDecision,isDecision,paths]
  rw [cyclomatic,cyclomatic,decisions]

theorem metrics_direct : ∀ m ∈ metrics, m.Direct := by
  unfold metrics
  simp only [List.forall_mem_cons,List.not_mem_nil,false_implies,implies_true,and_true]
  exact ⟨⟨_,fun _ _ _ => rfl,fun t _ _ id agree => congrArg Float.ofNat (cyclomatic_agree t id agree)⟩,
    direct_of_plain fun _ _ _ => rfl,direct_of_plain fun _ _ _ => rfl⟩

theorem language_reliable : language.Reliable :=
  ⟨by decide,fun m member => (metrics_direct m member).reliable⟩

end Python

theorem builtIn_reliable : ∀ l ∈ Registry.builtIn.languages, l.Reliable :=
  List.forall_mem_cons.mpr ⟨Java.language_reliable,List.forall_mem_singleton.mpr Python.language_reliable⟩

end TreeAudit
