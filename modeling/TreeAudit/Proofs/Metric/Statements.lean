import TreeAudit.Proofs.Metric.Members

-- Statement counts of Java declarations. A type counts all statements below it, a callable those that no nested
-- type hides from it. Callables and types are statements themselves, so what a type counts has room for each of
-- them with all that it counts, as long as none of them stands below another.
namespace TreeAudit.Java

def isStatement (t : Tree) (n : NodeId) : Bool := statementKinds.contains (t.kind n)

-- The statements below a declaration that its count is about.
def statementsBelow (t : Tree) (c : NodeId) : Set NodeId :=
  t.counted (if isType t c then [] else barriers) (isStatement t) c

-- A declaration with the statements that it counts.
def reported (t : Tree) (c : NodeId) : Set Nat := insert c (statementsBelow t c)

-- Callables and types below a declaration, none of them below another.
structure Scattered (t : Tree) (c : NodeId) (ms : Set NodeId) : Prop where
  declared : ∀ m ∈ ms, isCallable t m = true ∨ isType t m = true
  below : ∀ m ∈ ms, t.Above c m
  apart : IsAntichain t.Above ms

variable {t : Tree} {c d m : Nat} {ms : Set Nat}

theorem declared_statement (declared : isCallable t m = true ∨ isType t m = true) : isStatement t m = true := by
  have kinds : callableKinds ⊆ statementKinds ∧ typeKinds ⊆ statementKinds := by decide
  simp only [isCallable,isType,isStatement,List.contains_iff_mem] at declared ⊢
  rcases declared with callable | isType
  · exact kinds.1 callable
  · exact kinds.2 isType

theorem mem_statementsBelow (isType : isType t c = true) :
    d ∈ statementsBelow t c ↔ t.Above c d ∧ isStatement t d = true := by
  rw [statementsBelow,if_pos isType]
  constructor
  · intro own
    exact ⟨own.1.below,own.2⟩
  · rintro ⟨below,statement⟩
    exact ⟨⟨below,fun _ _ _ => List.not_mem_nil⟩,statement⟩

theorem reported_below (own : d ∈ reported t m) : t.AtOrAbove m d := by
  rcases own with same | statement
  · exact same ▸ .refl
  · exact statement.1.below.to_reflTransGen

theorem reported_finite (t : Tree) (m : NodeId) : (reported t m).Finite :=
  (t.counted_finite _ (isStatement t) m).insert m

theorem reported_ncard (shape : t.Preordered) (m : NodeId) :
    (reported t m).ncard = 1 + (statementsBelow t m).ncard := by
  have apart : m ∉ statementsBelow t m := fun own => Nat.lt_irrefl m (Tree.Above.lt shape own.1.below)
  rw [reported,Set.ncard_insert_of_notMem apart (t.counted_finite _ (isStatement t) m),Nat.add_comm]

-- Whatever a member hides, the type around it sees.
theorem Scattered.reported (scattered : Scattered t c ms) (isType : isType t c = true) (member : m ∈ ms) :
    reported t m ⊆ statementsBelow t c := by
  intro d own
  have below : t.Above c d := Relation.TransGen.trans_left (scattered.below m member) (reported_below own)
  apply (mem_statementsBelow isType).mpr
  rcases own with same | statement
  · exact ⟨below,same ▸ declared_statement (scattered.declared m member)⟩
  · exact ⟨below,statement.2⟩

theorem Scattered.finite (scattered : Scattered t c ms) : ms.Finite :=
  (Tree.within_size fun m member => (scattered.below m member).inside).1

theorem Scattered.sum (shape : t.Preordered) (scattered : Scattered t c ms) :
    ∑ᶠ m ∈ ms, (1 + (statementsBelow t m).ncard) = (⋃ m ∈ ms, Java.reported t m).ncard := by
  have total := Tree.antichain_ncard scattered.finite (fun m _ => reported_finite t m) scattered.apart
    fun m _ d own => reported_below own
  rw [total]
  exact finsum_mem_congr rfl fun m _ => (reported_ncard shape m).symm

theorem direct_scattered (shape : t.Preordered) (c : NodeId) : Scattered t c (direct t c) := by
  refine ⟨fun m member => .inl member.1,?_,direct_antichain shape c⟩
  intro m member
  obtain ⟨_,b,body,link⟩ := member
  exact .tail (.single (Tree.childByField_parent shape body)) link

-- What the count of a type comes to next to those of scattered declarations below it. Nothing is left over
-- exactly if one of them reports every statement of the type.
structure Contains (t : Tree) (c : NodeId) (ms : Set NodeId) : Prop where
  finite : ms.Finite
  seen : ∀ m ∈ ms, reported t m ⊆ statementsBelow t c
  atLeast : 1 + ∑ᶠ m ∈ ms, (1 + (statementsBelow t m).ncard) ≤ 1 + (statementsBelow t c).ncard
  nothingLeft : 1 + ∑ᶠ m ∈ ms, (1 + (statementsBelow t m).ncard) = 1 + (statementsBelow t c).ncard ↔
    ∀ d ∈ statementsBelow t c, ∃ m ∈ ms, d ∈ reported t m

theorem Scattered.contains (shape : t.Preordered) (scattered : Scattered t c ms) (isType : Java.isType t c = true) :
    Contains t c ms := by
  have seen : ∀ m ∈ ms, Java.reported t m ⊆ statementsBelow t c := fun m member => scattered.reported isType member
  have within : ⋃ m ∈ ms, Java.reported t m ⊆ statementsBelow t c := Set.iUnion₂_subset seen
  have finite : (statementsBelow t c).Finite := t.counted_finite _ (isStatement t) c
  have bound := Set.ncard_le_ncard within finite
  refine ⟨scattered.finite,seen,?_,?_⟩
  · rw [scattered.sum shape]
    omega
  · rw [scattered.sum shape,Nat.add_left_cancel_iff]
    constructor
    · intro same d own
      have all := Set.eq_of_subset_of_ncard_le within (Nat.le_of_eq same.symm) finite
      rw [← all] at own
      simpa using own
    · intro all
      have whole : ⋃ m ∈ ms, Java.reported t m = statementsBelow t c :=
        within.antisymm fun d own => Set.mem_iUnion₂.mpr (by simpa using all d own)
      rw [whole]

-- NCSS is one more than the number of statements that it is about, and that of a type is at least one more than
-- the sum over any scattered declarations below it, as are the callables right under its body.
theorem ncss_contains (t : Tree) (built : t.Built) (o : MetricOptions) :
    (∀ m, isCallable t m = true ∨ isType t m = true → ncss.OneMore t o m (statementsBelow t m)) ∧
      ∀ c, isType t c = true →
        Scattered t c (direct t c) ∧ ∀ ms, Scattered t c ms → Contains t c ms := by
  have shape := built.wellFormed.toPreordered
  constructor
  · intro m declared
    exact Metric.oneMore_of_count shape (Bool.or_eq_true _ _ ▸ declared) rfl
  · intro c isType
    exact ⟨direct_scattered shape c,fun ms scattered => scattered.contains shape isType⟩

-- A class with a field and two methods of one statement each.
def memberSteps : List BuildStep :=
  let place := fun start stop : Nat => (⟨start,stop,1,start + 1,1,stop + 1⟩ : Span)
  [.openNode "program" none (place 0 57),.openNode "class_declaration" none (place 0 57),
    .leaf "identifier" (some "name") (place 6 7),.openNode "class_body" (some "body") (place 8 57),
    .leaf "field_declaration" none (place 10 16),.openNode "method_declaration" none (place 17 37),
    .leaf "identifier" (some "name") (place 22 23),.openNode "block" (some "body") (place 26 37),
    .leaf "return_statement" none (place 28 35),.close,.close,.openNode "method_declaration" none (place 38 55),
    .leaf "identifier" (some "name") (place 43 44),.openNode "block" (some "body") (place 47 55),
    .leaf "expression_statement" none (place 49 53),.close,.close,.close,.close,.close]

def memberClass : Tree :=
  ((Builder.start "java" "A.java" "class A { int x; void f() { return; } void g() { f(); } }").run memberSteps).tree

theorem memberClass_built : memberClass.Built :=
  ⟨_,_,_,memberSteps,Builder.finish_complete (by decide +kernel) (by decide +kernel) (by decide +kernel)⟩

-- Only the field is left over.
theorem ncss_contains_methods : memberClass.Built ∧ isType memberClass 1 = true ∧
    direct memberClass 1 = {5,9} ∧ Scattered memberClass 1 {5,9} ∧
    ncss.value memberClass .empty 5 = some 2 ∧ ncss.value memberClass .empty 9 = some 2 ∧
    ncss.value memberClass .empty 1 = some 6 ∧
    1 + ∑ᶠ m ∈ direct memberClass 1, (1 + (statementsBelow memberClass m).ncard) ≤ 6 := by
  have shape := memberClass_built.wellFormed.toPreordered
  obtain ⟨values,types⟩ := ncss_contains memberClass memberClass_built .empty
  have isType : isType memberClass 1 = true := by decide +kernel
  obtain ⟨scattered,contains⟩ := types 1 isType
  have methods : direct memberClass 1 = {5,9} := by
    rw [direct_eq shape,show operations memberClass 1 = [5,9] by decide +kernel]
    simp
  have count : ∀ m, statements memberClass m = 1 + (statementsBelow memberClass m).ncard := fun m =>
    congrArg (1 + ·) (memberClass.countBelow_ncard shape m _ _)
  have value : ∀ m k, isCallable memberClass m = true ∨ Java.isType memberClass m = true →
      statements memberClass m = k → k < 2 ^ 53 → ncss.value memberClass .empty m = some (Float.ofNat k) := by
    intro m k declared same small
    rw [count] at same
    subst same
    exact ((values m declared).value small).1
  have six : statements memberClass 1 = 6 := by decide +kernel
  have least := (contains _ scattered).atLeast
  rw [← count 1,six] at least
  rw [methods] at scattered
  exact ⟨memberClass_built,isType,methods,scattered,value 5 2 (by decide +kernel) (by decide +kernel) (by decide),
    value 9 2 (by decide +kernel) (by decide +kernel) (by decide),value 1 6 (.inr isType) six (by decide),least⟩

end TreeAudit.Java
