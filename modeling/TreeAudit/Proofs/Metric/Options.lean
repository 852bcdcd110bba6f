import TreeAudit.Proofs.Metric.Members

-- Options that a metric does not declare. Under two sets of options that agree on the declared names, a metric
-- measured from an empty memo comes to the same value and enters the same values on the way, each time under the
-- written form of the options at hand. The metrics of the built-in languages are such, and with them the sum over a
-- type, which hands its options on to another metric.
namespace TreeAudit

theorem MetricOptions.restrict_agree (o : MetricOptions) (known : List String) :
    (o.restrict known).Agree known o := by
  intro name member
  simp [restrict,contains,member]

-- The same place under other options.
def MemoKey.under (o : MetricOptions) (k : MemoKey) : MemoKey := { k with options := o.written }

namespace Memo

def under (o : MetricOptions) (memo : Memo) : Memo := ⟨memo.entries.map fun e => (e.1.under o,e.2)⟩

-- All entries stand under the written form of the options.
def Entered (o : MetricOptions) (memo : Memo) : Prop := ∀ e ∈ memo.entries, e.1.options = o.written

end Memo

-- The second computation does under its options what the first one does under its own.
def Twins (o p : MetricOptions) (x y : StateM Memo α) : Prop :=
  ∀ memo, memo.Entered o → (x.run memo).2.Entered o ∧ y.run (memo.under p) = ((x.run memo).1,(x.run memo).2.under p)

-- A metric that, and whose computation, only depends on the options that it declares.
def Metric.Heeding (m : Metric) : Prop :=
  ∀ t o p id, p.Agree m.options o → Twins o p (m.compute t o id) (m.compute t p id)

section Twins
variable {o p : MetricOptions} {k : MemoKey} {memo : Memo} {x y : StateM Memo α} {g h : α → StateM Memo β} {a : α}
  {t : Tree} {id : NodeId} {m : Metric} {v : Option Float} {known : List String}

theorem key_under (entered : k.options = o.written) (id : NodeId) (metric : String) :
    ((⟨id,metric,p.written⟩ : MemoKey) == k.under p) = (⟨id,metric,o.written⟩ == k) := by
  obtain ⟨node,other,options⟩ := k
  subst entered
  apply Bool.eq_iff_iff.mpr
  simp [MemoKey.under]

theorem find_under (entered : memo.Entered o) (id : NodeId) (metric : String) :
    (memo.under p).find? ⟨id,metric,p.written⟩ = memo.find? ⟨id,metric,o.written⟩ := by
  obtain ⟨entries⟩ := memo
  induction entries with
  | nil => rfl
  | cons e rest ih =>
    obtain ⟨k,v⟩ := e
    obtain ⟨first,others⟩ := List.forall_mem_cons.mp entered
    have later := ih others
    simp only [Memo.find?,Memo.under,List.map_cons,List.lookup_cons] at later ⊢
    rw [key_under first,later]

theorem entered_insert (entered : memo.Entered o) :
    (memo.insert ⟨id,m.key,o.written⟩ v).Entered o :=
  List.forall_mem_cons.mpr ⟨rfl,entered⟩

theorem Twins.pure (a : α) : Twins o p (pure a) (pure a) := fun _ entered => ⟨entered,rfl⟩

theorem Twins.bind (first : Twins o p x y) (next : ∀ a, Twins o p (g a) (h a)) : Twins o p (x >>= g) (y >>= h) := by
  intro memo entered
  obtain ⟨kept,same⟩ := first memo entered
  obtain ⟨last,again⟩ := next (x.run memo).1 (x.run memo).2 kept
  rw [StateT.run_bind,StateT.run_bind,same]
  exact ⟨last,again⟩

theorem Twins.mapM (each : ∀ a, Twins o p (g a) (h a)) (as : List α) : Twins o p (as.mapM g) (as.mapM h) := by
  induction as with
  | nil => exact .pure []
  | cons a as ih =>
    rw [List.mapM_cons,List.mapM_cons]
    exact (each a).bind fun b => ih.bind fun bs => .pure _

theorem compute_twins (measured : Twins o p (m.measure t o id) (m.measure t p id)) :
    Twins o p (m.compute t o id) (m.compute t p id) := by
  unfold Metric.compute
  split
  · exact measured.bind fun x => .pure _
  · exact .pure none

-- Both look for the value at their own place, and both find it or neither does.
theorem memoized_twins (computed : Twins o p (m.compute t o id) (m.compute t p id)) :
    Twins o p (m.computeMemoized t o id) (m.computeMemoized t p id) := by
  intro memo entered
  have place := find_under (p := p) entered id m.key
  cases looked : memo.find? ⟨id,m.key,o.written⟩ with
  | some v =>
    rw [computeMemoized_known looked,computeMemoized_known (place.trans looked)]
    exact ⟨entered,rfl⟩
  | none =>
    obtain ⟨kept,same⟩ := computed memo entered
    rw [computeMemoized_new looked rfl,computeMemoized_new (place.trans looked) same]
    exact ⟨entered_insert kept,rfl⟩

theorem Metric.Direct.heeding (direct : m.Direct) : m.Heeding := by
  obtain ⟨number,measures,heeds⟩ := direct
  intro t o p id agree
  apply compute_twins
  rw [measures,measures,heeds t o p id agree]
  exact .pure _

-- From an empty memo both come to the same value, and what they leave behind differs in the options alone.
theorem Metric.Heeding.alike (heeding : m.Heeding) (agree : p.Agree m.options o) (t : Tree) (id : NodeId) :
    m.value t p id = m.value t o id ∧
      (m.compute t p id Memo.empty).2 = (m.compute t o id Memo.empty).2.under p := by
  have none : Memo.empty.Entered o := fun _ member => absurd member List.not_mem_nil
  exact Prod.ext_iff.mp (heeding t o p id agree Memo.empty none).2

end Twins

theorem Java.wmc_heeding : wmc.Heeding := by
  intro t o p id agree
  have each : ∀ n, Twins o p (cyclo.computeMemoized t o n) (cyclo.computeMemoized t p n) := fun n =>
    memoized_twins (cyclo_direct.heeding t o p n agree)
  exact compute_twins ((Twins.mapM each (operations t id)).bind fun _ => .pure _)

theorem builtIn_heeding (l : Language) (builtIn : l ∈ Registry.builtIn.languages) (m : Metric)
    (known : m ∈ l.metrics) : m.Heeding := by
  rcases List.mem_cons.mp builtIn with rfl | builtIn
  · rcases Java.metrics_direct m known with rfl | direct
    · exact Java.wmc_heeding
    · exact direct.heeding
  · obtain rfl := List.mem_singleton.mp builtIn
    exact (Python.metrics_direct m known).heeding

-- What is not declared does not matter: neither for the value nor for the values that are entered on the way. The
-- sum over a type adds up the complexities that the operations have under the declared options alone.
theorem declared_options (t : Tree) (id : NodeId) (o : MetricOptions) :
    (∀ l ∈ Registry.builtIn.languages, ∀ m ∈ l.metrics,
      m.value t (o.restrict m.options) id = m.value t o id ∧
      (m.compute t (o.restrict m.options) id Memo.empty).2 =
        (m.compute t o id Memo.empty).2.under (o.restrict m.options)) ∧
    (Java.wmc.measure t o id Memo.empty).1 =
      Java.sum (((Java.operations t id).map (Java.cyclo.value t (o.restrict Java.wmc.options))).filterMap
        fun v => v) := by
  constructor
  · intro l builtIn m known
    exact (builtIn_heeding l builtIn m known).alike (o.restrict_agree m.options) t id
  · have summand : ∀ n, Java.cyclo.value t (o.restrict Java.wmc.options) n = Java.cyclo.value t o n := fun n =>
      (Java.cyclo_direct.heeding.alike (o.restrict_agree Java.cyclo.options) t n).1
    rw [funext summand]
    exact Java.wmc_measured t o id

-- A class whose method has an assertion for its body.
def assertingSteps : List BuildStep :=
  let place := fun start stop : Nat => (⟨start,stop,1,start + 1,1,stop + 1⟩ : Span)
  [.openNode "program" none (place 0 34),.openNode "class_declaration" none (place 0 34),
    .leaf "identifier" (some "name") (place 6 7),.openNode "class_body" (some "body") (place 8 34),
    .openNode "method_declaration" none (place 10 32),.leaf "identifier" (some "name") (place 15 16),
    .openNode "block" (some "body") (place 19 32),.leaf "assert_statement" none (place 21 30),.close,.close,.close,
    .close,.close]

def assertingClass : Tree :=
  ((Builder.start "java" "A.java" "class A { void m() { assert a; } }").run assertingSteps).tree

-- Two options of which the sum declares one. Its summand stands under both or under the one, and is the same.
theorem declared_options_asserting :
    let both : MetricOptions := .ofNames ["strict","considerAssert"]
    let one : MetricOptions := .ofNames ["considerAssert"]
    Java.language ∈ Registry.builtIn.languages ∧ Java.wmc ∈ Java.language.metrics ∧
      both.restrict Java.wmc.options = one ∧ one ≠ both ∧
      Java.wmc.value assertingClass one 1 = Java.wmc.value assertingClass both 1 ∧
      Java.wmc.value assertingClass both 1 = some 2 ∧ Java.wmc.value assertingClass .empty 1 = some 1 ∧
      (Java.wmc.compute assertingClass both 1 Memo.empty).2.entries = [(⟨4,"CYCLO","considerAssert,strict"⟩,some 2)] ∧
      (Java.wmc.compute assertingClass one 1 Memo.empty).2 =
        (Java.wmc.compute assertingClass both 1 Memo.empty).2.under one := by
  intro both one
  have language : Java.language ∈ Registry.builtIn.languages := List.mem_cons_self
  have metric : Java.wmc ∈ Java.language.metrics := List.mem_of_getElem? (i := 3) rfl
  have restricted : both.restrict Java.wmc.options = one := by decide +kernel
  obtain ⟨values,_⟩ := declared_options assertingClass 1 both
  have same := values Java.language language Java.wmc metric
  rw [restricted] at same
  refine ⟨language,metric,restricted,?_,same.1,?_,?_,?_,same.2⟩
  · decide +kernel
  · decide +kernel
  · decide +kernel
  · decide +kernel

end TreeAudit
