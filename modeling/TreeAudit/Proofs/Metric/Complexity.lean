import TreeAudit.Java.Metrics
import TreeAudit.Proofs.Decimal.Counts
import TreeAudit.Proofs.Tree.Building
import TreeAudit.Proofs.Tree.Pruning
import TreeAudit.Python.Metrics

-- Cyclomatic complexity. It is one more than the number of decisions below that no barrier hides, and no
-- decision is counted twice: functions are barriers of their own in Python, and in Java the bodies of types
-- keep callables apart.
namespace TreeAudit

-- A metric that gives one more than the number of some nodes, exactly as long as that is less than 2^53.
structure Metric.OneMore (m : Metric) (t : Tree) (o : MetricOptions) (c : NodeId) (ds : Set NodeId) : Prop where
  finite : ds.Finite
  value : 1 + ds.ncard < 2 ^ 53 →
    m.value t o c = some (Float.ofNat (1 + ds.ncard)) ∧
      Decimal.Stands (Float.ofNat (1 + ds.ncard)) (1 + ds.ncard)

section Counting
variable {t : Tree} {o : MetricOptions} {c : NodeId}

theorem Metric.value_of_measured {m : Metric} {x : Float} (applies : m.applies t c = true)
    (measured : (m.measure t o c Memo.empty).1 = x) (finite : x.isFinite = true) : m.value t o c = some x := by
  rw [value,compute,if_pos applies]
  change (if (m.measure t o c Memo.empty).1.isFinite then some _ else none) = _
  rw [measured,if_pos finite]

theorem Metric.oneMore_of_count (shape : t.Preordered) {m : Metric} {barriers : List String}
    {counts : NodeId → Bool} (applies : m.applies t c = true)
    (measures : m.measure t o c = pure (Float.ofNat (1 + t.countBelow c barriers counts))) :
    m.OneMore t o c (t.counted barriers counts c) := by
  refine ⟨t.counted_finite barriers counts c,fun small => ?_⟩
  have stands := Decimal.stands_small (Nat.ne_of_gt (Nat.add_pos_left Nat.one_pos _)) small
  refine ⟨value_of_measured applies ?_ stands.isFinite,stands⟩
  rw [measures,t.countBelow_ncard shape]
  rfl

end Counting

def Java.decisions (t : Tree) (o : MetricOptions) (c : NodeId) : Set NodeId :=
  t.counted barriers (isDecision t o) c

-- Between a callable and any callable above it there is a barrier.
def Java.Separated (t : Tree) : Prop :=
  ∀ a b : Nat, isCallable t a = true → isCallable t b = true → t.Above a b →
    ∃ m, t.Above a m ∧ t.Above m b ∧ t.kind m ∈ barriers

def Python.decisions (t : Tree) (o : MetricOptions) (f : NodeId) : Set NodeId :=
  t.counted barriers (isDecision t o) f

def Python.enclosingDefinition (t : Tree) (d : NodeId) : Option NodeId :=
  (t.ancestors d).find? fun n => isFunction t n || isClass t n

namespace Python
variable {t : Tree} {o : MetricOptions} {d f : NodeId}

theorem decision_clear (decision : isDecision t o d = true) : t.kind d ∉ barriers := by
  intro barrier
  have kinds : t.kind d ∈ branchKinds ∨ t.kind d = "boolean_operator" := by
    simp only [isDecision,Bool.or_eq_true,Bool.and_eq_true,List.contains_iff_mem,decide_eq_true_eq] at decision
    exact decision.imp id And.left
  simp only [barriers,branchKinds,List.mem_cons,List.not_mem_nil,or_false] at barrier kinds
  rcases barrier with same | same <;> simp [same] at kinds

theorem enclosingDefinition_eq : enclosingDefinition t d =
    (t.ancestors d).find? fun n => barriers.contains (t.kind n) := by
  refine congrArg (List.find? · _) (funext fun n => ?_)
  simp [isFunction,isClass,barriers]

theorem decisions_nearest (shape : t.Preordered) (decision : isDecision t o d = true)
    (function : isFunction t f = true) : d ∈ decisions t o f ↔ enclosingDefinition t d = some f := by
  have barrier : t.kind f ∈ barriers := by
    rw [show t.kind f = "function_definition" from of_decide_eq_true function]
    exact List.mem_cons_self
  rw [enclosingDefinition_eq,← Tree.exposed_barrier shape barrier (decision_clear decision)]
  exact and_iff_left decision

end Python

-- Cyclomatic complexity in both languages, and which callable counts a decision.
theorem cyclo_decisions (t : Tree) (built : t.Built) (o : MetricOptions) :
    (∀ c, Java.isCallable t c = true → Java.cyclo.OneMore t o c (Java.decisions t o c)) ∧
    (∀ f, Python.isFunction t f = true → Python.cyclo.OneMore t o f (Python.decisions t o f)) ∧
    (∀ d f, Python.isDecision t o d = true → Python.isFunction t f = true →
      (d ∈ Python.decisions t o f ↔ Python.enclosingDefinition t d = some f)) ∧
    (Java.Separated t → ∀ d a b, Java.isCallable t a = true → Java.isCallable t b = true →
      d ∈ Java.decisions t o a → d ∈ Java.decisions t o b → a = b) := by
  have shape := built.wellFormed.toPreordered
  refine ⟨fun c callable => ?_,fun f function => ?_,fun d f decision function => ?_,?_⟩
  · exact Metric.oneMore_of_count shape callable rfl
  · exact Metric.oneMore_of_count shape function rfl
  · exact Python.decisions_nearest shape decision function
  · intro separated d a b first second one two
    exact Tree.exposed_unique separated first second one.1 two.1

theorem Java.callable_inside {t : Tree} {c : Nat} (callable : isCallable t c = true) : c < t.size := by
  by_contra outside
  rw [isCallable,Tree.kind,Tree.node_outside (Nat.le_of_not_lt outside)] at callable
  exact absurd callable (by decide)

-- A method with a condition whose branch makes an object with a method of its own, which has a loop.
def nestedSteps : List BuildStep :=
  let place := fun start stop : Nat => (⟨start,stop,1,start + 1,1,stop + 1⟩ : Span)
  [.openNode "program" none (place 0 59),.openNode "method_declaration" none (place 0 59),
    .openNode "if_statement" none (place 11 57),.openNode "class_body" none (place 28 55),
    .openNode "method_declaration" none (place 30 53),.leaf "while_statement" none (place 41 51),
    .close,.close,.close,.close,.close]

def nested : Tree :=
  ((Builder.start "java" "A.java" "void m() { if (a) r(new A() { void n() { while (b); } }); }").run nestedSteps).tree

theorem nested_built : nested.Built :=
  ⟨_,_,_,nestedSteps,Builder.finish_complete (by decide +kernel) (by decide +kernel) (by decide +kernel)⟩

theorem nested_callables {a : Nat} (callable : Java.isCallable nested a = true) : a = 1 ∨ a = 4 := by
  have known : ∀ a < nested.size, Java.isCallable nested a = true → a = 1 ∨ a = 4 := by decide +kernel
  exact known a (Java.callable_inside callable) callable

theorem nested_separated : Java.Separated nested := by
  intro a b first second above
  have later := Tree.Above.lt nested_built.wellFormed.toPreordered above
  have one := nested_callables first
  have two := nested_callables second
  obtain ⟨rfl,rfl⟩ : a = 1 ∧ b = 4 := by omega
  have two : nested.IsParent 1 2 := rfl
  have three : nested.IsParent 2 3 := rfl
  have four : nested.IsParent 3 4 := rfl
  exact ⟨3,.tail (.single two) three,.single four,by decide +kernel⟩

-- A function with a loop in a function with a condition.
def closureSteps : List BuildStep :=
  let place := fun start line column : Nat => (⟨start,45,line,column,4,17⟩ : Span)
  [.openNode "module" none (place 0 1 1),.openNode "function_definition" none (place 0 1 1),
    .openNode "if_statement" none (place 11 2 2),.openNode "function_definition" none (place 19 3 3),
    .leaf "while_statement" none (place 32 4 4),.close,.close,.close,.close]

def closure : Tree :=
  ((Builder.start "python" "a.py" "def f(x):\n if x:\n  def g(y):\n   while y: pass").run closureSteps).tree

theorem closure_built : closure.Built :=
  ⟨_,_,_,closureSteps,Builder.finish_complete (by decide +kernel) (by decide +kernel) (by decide +kernel)⟩

theorem cyclo_decisions_nested :
    nested.Built ∧ Java.Separated nested ∧ Java.isCallable nested 1 = true ∧ Java.isCallable nested 4 = true ∧
      (Java.decisions nested .empty 1).ncard = 1 ∧ Java.cyclo.value nested .empty 1 = some 2 ∧
      5 ∈ Java.decisions nested .empty 4 ∧ 5 ∉ Java.decisions nested .empty 1 ∧
      closure.Built ∧ 4 ∈ Python.decisions closure .empty 3 ∧ 4 ∉ Python.decisions closure .empty 1 := by
  obtain ⟨measured,_,_,once⟩ := cyclo_decisions nested nested_built .empty
  obtain ⟨_,_,nearest,_⟩ := cyclo_decisions closure closure_built .empty
  have outer : Java.isCallable nested 1 = true := by decide +kernel
  have inner : Java.isCallable nested 4 = true := by decide +kernel
  have single : (Java.decisions nested .empty 1).ncard = 1 := by
    rw [Java.decisions,← nested.countBelow_ncard nested_built.wellFormed.toPreordered]
    decide +kernel
  have two := ((measured 1 outer).value (by rw [single]; decide)).1
  rw [single] at two
  have loop : 5 ∈ Java.decisions nested .empty 4 := by
    refine ⟨Tree.exposed_child nested_built.wellFormed.toPreordered ⟨rfl,by decide +kernel⟩,by decide +kernel⟩
  have apart : 5 ∉ Java.decisions nested .empty 1 := fun also =>
    absurd (once nested_separated 5 1 4 outer inner also loop) (by decide)
  have here := nearest 4 3 (by decide +kernel) (by decide +kernel)
  have there := nearest 4 1 (by decide +kernel) (by decide +kernel)
  exact ⟨nested_built,nested_separated,outer,inner,single,two,loop,apart,closure_built,
    here.mpr (by decide +kernel),mt there.mp (by decide +kernel)⟩

end TreeAudit
