import TreeAudit.Proofs.Metric.Members
import TreeAudit.Proofs.Tree.Removal

-- What assertions add to cyclomatic complexity when they are not to be considered. Compared with the tree
-- without them, their boolean operators add nothing, but conditional expressions, labels and statements in them
-- count as they do anywhere else.
namespace TreeAudit.Java
open Relation

-- A decision by its own kind, whatever the options are and wherever it stands.
def isBranch (t : Tree) (d : NodeId) : Bool :=
  branchKinds.contains (t.kind d) ||
    (t.kind d = "switch_label" && !"default".toList.isPrefixOf (t.text d).toList)

def assertionBelow (t : Tree) (c n : NodeId) : Bool :=
  t.kind n = "assert_statement" && (t.ancestors n).contains c

-- The tree without the assertions below a callable, and the number that a node has in it.
def unasserted (t : Tree) (c : NodeId) : Tree := t.without (assertionBelow t c)

def unassertedPlace (t : Tree) (c n : NodeId) : NodeId := t.place (assertionBelow t c) n

-- The nodes in assertions below a callable.
def asserted (t : Tree) (c : NodeId) : Set Nat :=
  { d | ∃ a : Nat, t.kind a = "assert_statement" ∧ t.Above c a ∧ t.AtOrAbove a d }

variable {t : Tree} {o : MetricOptions} {a c d m n : Nat}

section Assertions

theorem isDecision_plain (plain : o.contains considerAssert = false) : isDecision t o d =
    (isBranch t d || (isBooleanOperator t d && !o.contains ignoreBooleanPaths && !inAssertion t d)) := by
  simp [isDecision,isBranch,plain]

theorem inAssertion_iff (shape : t.Preordered) : inAssertion t d = true ↔ ∃ a : Nat, t.kind a = "assert_statement" ∧
    t.Above a d ∧ ∀ m : Nat, t.AtOrAbove a m → t.Above m d → isCallable t m = false := by
  unfold inAssertion
  rw [List.any_eq_true]
  simp only [Tree.mem_lasting shape,decide_eq_true_eq,Bool.not_eq_true',and_comm]

theorem assertionBelow_iff (shape : t.Preordered) :
    assertionBelow t c n = true ↔ t.kind n = "assert_statement" ∧ t.Above c n := by
  simp [assertionBelow,Tree.mem_ancestors shape]

theorem stays_iff_asserted (shape : t.Preordered) :
    t.stays (assertionBelow t c) d = true ↔ d ∉ asserted t c := by
  rw [Tree.stays_iff shape]
  constructor
  · rintro all ⟨a,kind,above,chain⟩
    have cut := (assertionBelow_iff shape).mpr ⟨kind,above⟩
    cases (all a chain).symm.trans cut
  · intro apart a chain
    apply Bool.eq_false_iff.mpr
    intro cut
    obtain ⟨kind,above⟩ := (assertionBelow_iff shape).mp cut
    exact apart ⟨a,kind,above,chain⟩

-- An assertion around a node below a callable stands below it too, as the callable would hide it.
theorem inAssertion_asserted (shape : t.Preordered) (callable : isCallable t c = true) (below : t.Above c d)
    (around : inAssertion t d = true) : d ∈ asserted t c := by
  obtain ⟨a,kind,above,clear⟩ := (inAssertion_iff shape).mp around
  rcases Tree.comparable below.to_reflTransGen above.to_reflTransGen with lower | upper
  · rcases reflTransGen_iff_eq_or_transGen.mp lower with same | inner
    · have none := clear c (same ▸ .refl) below
      cases none.symm.trans callable
    · exact ⟨a,kind,inner,above.to_reflTransGen⟩
  · have none := clear c upper below
    cases none.symm.trans callable

end Assertions

section Without

theorem callable_kept (shape : t.Preordered) (callable : isCallable t c = true) :
    c ∈ t.kept (assertionBelow t c) := by
  refine Tree.mem_kept.mpr ⟨callable_inside callable,(stays_iff_asserted shape).mpr ?_⟩
  rintro ⟨a,_,above,chain⟩
  have lower := Tree.Above.lt shape above
  have upper := Tree.AtOrAbove.le shape chain
  omega

theorem root_uncut (shape : t.Preordered) (c : NodeId) : assertionBelow t c Tree.root = false := by
  simp [assertionBelow,Tree.ancestors_top shape.top]

variable {cut : NodeId → Bool}

theorem isCallable_without (member : n ∈ t.kept cut) :
    isCallable (t.without cut) (t.place cut n) = isCallable t n := by
  rw [isCallable,Tree.kind_without member,isCallable]

theorem isBranch_without (member : n ∈ t.kept cut) :
    isBranch (t.without cut) (t.place cut n) = isBranch t n := by
  rw [isBranch,Tree.kind_without member,Tree.text_without member,isBranch]

theorem isBooleanOperator_without (member : n ∈ t.kept cut) :
    isBooleanOperator (t.without cut) (t.place cut n) = isBooleanOperator t n := by
  rw [isBooleanOperator,Tree.kind_without member,Tree.token_without member,isBooleanOperator]

-- No assertion comes up around a node by cutting others out.
theorem inAssertion_without (wf : t.WellFormed) (rooted : cut Tree.root = false) (member : d ∈ t.kept cut)
    (around : inAssertion (t.without cut) (t.place cut d) = true) : inAssertion t d = true := by
  have shape := wf.toPreordered
  obtain ⟨q,kind,above,clear⟩ := (inAssertion_iff (Tree.without_wellFormed wf rooted).toPreordered).mp around
  obtain ⟨a,upper,rfl⟩ := (Tree.above_without shape member).mp above
  have among := Tree.kept_above shape upper.to_reflTransGen member
  rw [Tree.kind_without among] at kind
  refine (inAssertion_iff shape).mpr ⟨a,kind,upper,fun m chain higher => ?_⟩
  have inner := Tree.kept_above shape higher.to_reflTransGen member
  rw [← isCallable_without inner]
  exact clear _ ((Tree.atOrAbove_without shape inner).mpr ⟨a,chain,rfl⟩)
    ((Tree.above_without shape member).mpr ⟨m,higher,rfl⟩)

theorem isDecision_without (wf : t.WellFormed) (plain : o.contains considerAssert = false)
    (callable : isCallable t c = true) (member : d ∈ t.kept (assertionBelow t c)) (below : t.Above c d) :
    isDecision (unasserted t c) o (unassertedPlace t c d) = isDecision t o d := by
  have shape := wf.toPreordered
  have apart : d ∉ asserted t c := (stays_iff_asserted shape).mp (Tree.mem_kept.mp member).2
  have outside : inAssertion t d = false :=
    Bool.eq_false_iff.mpr fun around => apart (inAssertion_asserted shape callable below around)
  have still : inAssertion (unasserted t c) (unassertedPlace t c d) = false :=
    Bool.eq_false_iff.mpr fun around =>
      Bool.eq_false_iff.mp outside (inAssertion_without wf (root_uncut shape c) member around)
  rw [isDecision_plain plain,isDecision_plain plain,outside,still,unasserted,unassertedPlace,isBranch_without member,
    isBooleanOperator_without member]

theorem cyclomatic_unasserted (wf : t.WellFormed) (plain : o.contains considerAssert = false)
    (callable : isCallable t c = true) : cyclomatic t o c =
      cyclomatic (unasserted t c) o (unassertedPlace t c c) + (decisions t o c ∩ asserted t c).ncard := by
  have shape := wf.toPreordered
  have counts : t.countBelow c barriers (isDecision t o) =
      (unasserted t c).countBelow (unassertedPlace t c c) barriers (isDecision (unasserted t c) o) +
        { d ∈ t.counted barriers (isDecision t o) c | t.stays (assertionBelow t c) d = false }.ncard :=
    Tree.countBelow_without wf (root_uncut shape c) (callable_kept shape callable) fun d =>
      isDecision_without wf plain callable
  have gone : { d ∈ t.counted barriers (isDecision t o) c | t.stays (assertionBelow t c) d = false } =
      decisions t o c ∩ asserted t c := by
    ext d
    refine and_congr_right fun _ => ?_
    rw [← Bool.not_eq_true,stays_iff_asserted shape,not_not]
  rw [cyclomatic,cyclomatic,counts,gone,Nat.add_assoc]

-- An operator in an assertion is counted only in a callable of its own, which a barrier sets apart.
theorem asserted_branches (shape : t.Preordered) (separated : Separated t)
    (plain : o.contains considerAssert = false) (callable : isCallable t c = true) :
    decisions t o c ∩ asserted t c = t.counted barriers (isBranch t) c ∩ asserted t c := by
  ext d
  constructor
  · rintro ⟨⟨exposed,decision⟩,a,kind,above,chain⟩
    refine ⟨⟨exposed,?_⟩,a,kind,above,chain⟩
    rw [isDecision_plain plain,Bool.or_eq_true] at decision
    rcases decision with branch | operator
    · exact branch
    · simp only [Bool.and_eq_true,Bool.not_eq_true'] at operator
      by_contra _
      have different : a ≠ d := by
        rintro rfl
        have other : t.kind a = "binary_expression" := by
          have kinds := operator.1.1
          simp only [isBooleanOperator,Bool.and_eq_true,decide_eq_true_eq] at kinds
          exact kinds.1
        rw [other] at kind
        exact absurd kind (by decide)
      have around : inAssertion t d = true := by
        refine (inAssertion_iff shape).mpr ⟨a,kind,chain.above different,fun m lower upper => ?_⟩
        apply Bool.eq_false_iff.mpr
        intro inner
        have below : t.Above c m := TransGen.trans_left above lower
        obtain ⟨k,later,earlier,barrier⟩ := separated c m callable inner below
        exact exposed.clear k later (earlier.trans upper).to_reflTransGen barrier
      cases operator.2.symm.trans around
  · rintro ⟨⟨exposed,branch⟩,within⟩
    refine ⟨⟨exposed,?_⟩,within⟩
    rw [isDecision_plain plain,branch,Bool.true_or]

end Without

theorem count_inj {k n : Nat} (some : k ≠ 0) (other : n ≠ 0) (small : k < 2 ^ 53)
    (same : Float.ofNat k = Float.ofNat n) : k = n := by
  have exact := Decimal.exact_of_le small.le
  apply (Decimal.count_beq_iff exact some other (.inl small)).mp
  rw [← same]
  exact (Decimal.count_beq_iff exact some some (.inl small)).mpr rfl

-- Complexity with assertions that are not considered: that of the tree without them, and one for each decision
-- that is left in them.
theorem cyclo_assertions (t : Tree) (built : t.Built) (small : t.size < 2 ^ 53) (o : MetricOptions)
    (plain : o.contains considerAssert = false) (c : NodeId) (callable : isCallable t c = true) :
    (unasserted t c).WellFormed ∧ isCallable (unasserted t c) (unassertedPlace t c c) = true ∧
    (∃ rest : Nat, cyclo.value (unasserted t c) o (unassertedPlace t c c) = some (Float.ofNat rest) ∧
      cyclo.value t o c = some (Float.ofNat (rest + (decisions t o c ∩ asserted t c).ncard))) ∧
    (cyclo.value t o c = cyclo.value (unasserted t c) o (unassertedPlace t c c) ↔
      decisions t o c ∩ asserted t c = ∅) ∧
    (Separated t → decisions t o c ∩ asserted t c = t.counted barriers (isBranch t) c ∩ asserted t c) := by
  have wf := built.wellFormed
  have shape := wf.toPreordered
  have bare : (unasserted t c).WellFormed := Tree.without_wellFormed wf (root_uncut shape c)
  have member := callable_kept shape callable
  have again : isCallable (unasserted t c) (unassertedPlace t c c) = true :=
    (isCallable_without member).trans callable
  have inside := callable_inside callable
  have smaller : (unasserted t c).size ≤ t.size := Tree.size_without_le t _
  have left := cyclo_value (o := o) bare.toPreordered (by omega) again (callable_inside again)
  have whole := cyclo_value (o := o) shape small callable inside
  have bound := cyclomatic_le shape o inside
  have total := cyclomatic_unasserted wf plain callable
  have finite : (decisions t o c ∩ asserted t c).Finite :=
    (t.counted_finite barriers (isDecision t o) c).subset Set.inter_subset_left
  refine ⟨bare,again,⟨_,left,total ▸ whole⟩,?_,fun separated => asserted_branches shape separated plain callable⟩
  rw [left,whole]
  constructor
  · intro same
    have one : cyclomatic t o c ≠ 0 := by rw [cyclomatic]; omega
    have two : cyclomatic (unasserted t c) o (unassertedPlace t c c) ≠ 0 := by rw [cyclomatic]; omega
    have equal := count_inj one two (by omega) (Option.some.inj same)
    apply (Set.ncard_eq_zero finite).mp
    omega
  · intro none
    rw [total,none,Set.ncard_empty,Nat.add_zero]

-- A method with a condition, and behind it an assertion of a conditional expression on a conjunction.
def choosingSteps : List BuildStep :=
  let place := fun start stop : Nat => (⟨start,stop,1,start + 1,1,stop + 1⟩ : Span)
  [.openNode "program" none (place 0 47),.openNode "method_declaration" none (place 0 47),
    .leaf "if_statement" none (place 11 22),.openNode "assert_statement" none (place 23 45),
    .openNode "ternary_expression" none (place 30 44),.openNode "binary_expression" (some "condition") (place 30 36),
    .token "operator" "&&",.close,.close,.close,.close,.close]

def choosing : Tree :=
  ((Builder.start "java" "A.java" "void m() { if (x) y(); assert a && b ? c : d; }").run choosingSteps).tree

theorem choosing_built : choosing.Built :=
  ⟨_,_,_,choosingSteps,Builder.finish_complete (by decide +kernel) (by decide +kernel) (by decide +kernel)⟩

-- The conjunction is not counted, and the conditional expression is.
theorem cyclo_assertions_choosing : choosing.Built ∧ Java.isCallable choosing 1 = true ∧ Separated choosing ∧
    isBooleanOperator choosing 5 = true ∧ cyclo.value choosing .empty 1 = some 3 ∧
    (decisions choosing .empty 1 ∩ asserted choosing 1).ncard = 1 ∧
    decisions choosing .empty 1 ∩ asserted choosing 1 =
      choosing.counted barriers (isBranch choosing) 1 ∩ asserted choosing 1 ∧
    cyclo.value (unasserted choosing 1) .empty (unassertedPlace choosing 1 1) = some 2 := by
  have small : choosing.size < 2 ^ 53 := by decide +kernel
  have plain : MetricOptions.empty.contains considerAssert = false := rfl
  have callable : isCallable choosing 1 = true := by decide +kernel
  have single : ∀ a < choosing.size, isCallable choosing a = true → a = 1 := by decide +kernel
  have separated : Separated choosing := by
    intro a b first second above
    have later := Tree.Above.lt choosing_built.wellFormed.toPreordered above
    have one := single a (callable_inside first) first
    have two := single b (callable_inside second) second
    omega
  obtain ⟨_,_,_,_,branches⟩ := cyclo_assertions choosing choosing_built small .empty plain 1 callable
  have total := cyclomatic_unasserted choosing_built.wellFormed plain callable
  have known : cyclomatic choosing .empty 1 = 3 := by decide +kernel
  have rest : cyclomatic (unasserted choosing 1) .empty (unassertedPlace choosing 1 1) = 2 := by decide +kernel
  have extra : (decisions choosing .empty 1 ∩ asserted choosing 1).ncard = 1 := by omega
  exact ⟨choosing_built,callable,separated,by decide +kernel,by decide +kernel,extra,branches separated,
    by decide +kernel⟩

-- A method whose only statement asserts a conditional expression.
def ternarySteps : List BuildStep :=
  let place := fun start stop : Nat => (⟨start,stop,1,start + 1,1,stop + 1⟩ : Span)
  [.openNode "program" none (place 0 30),.openNode "method_declaration" none (place 0 30),
    .openNode "assert_statement" none (place 11 28),.leaf "ternary_expression" none (place 18 27),.close,.close,.close]

def ternary : Tree := ((Builder.start "java" "A.java" "void m() { assert a ? b : c; }").run ternarySteps).tree

theorem cyclo_assertions_ternary : ternary.Built ∧ isCallable ternary 1 = true ∧
    cyclo.value ternary .empty 1 = some 2 ∧
    cyclo.value (unasserted ternary 1) .empty (unassertedPlace ternary 1 1) = some 1 ∧
    cyclo.value ternary .empty 1 ≠ cyclo.value (unasserted ternary 1) .empty (unassertedPlace ternary 1 1) := by
  exact ⟨⟨_,_,_,ternarySteps,Builder.finish_complete (by decide +kernel) (by decide +kernel) (by decide +kernel)⟩,
    by decide +kernel,by decide +kernel,by decide +kernel,by decide +kernel⟩

end TreeAudit.Java
