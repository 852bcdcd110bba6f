import TreeAudit.Proofs.Decimal.Differences
import TreeAudit.Proofs.Metric.Complexity
import TreeAudit.Proofs.Metric.Reliable
import TreeAudit.Proofs.Scope.Nesting
import TreeAudit.Proofs.Tree.Antichain

-- The members of Java types. What the metrics of a type add up are the callables directly in its body, each once.
-- A member is a callable with nothing but bodies between it and the type, which is also the type that scopes name
-- for it; those of an enumeration stand one body deeper, and no type counts them.
namespace TreeAudit.Java
open Relation

-- What may stand between a type and its members.
def bodyKinds : List String := "enum_body_declarations" :: barriers

structure Member (t : Tree) (c m : Nat) : Prop where
  callable : isCallable t m = true
  below : t.Above c m
  inBody : ∀ k, t.Above c k → t.Above k m → t.kind k ∈ bodyKinds

def members (t : Tree) (c : NodeId) : Set Nat := { m | Member t c m }

-- The callables right under the body of a type.
def direct (t : Tree) (c : NodeId) : Set Nat :=
  { m | isCallable t m = true ∧ ∃ b, t.childByField c "body" = some b ∧ t.IsParent b m }

def missed (t : Tree) (c : NodeId) : Set Nat := members t c \ direct t c

def methodsIn (t : Tree) (s : Set Nat) : Set Nat := { m ∈ s | t.kind m = "method_declaration" }

noncomputable def weight (t : Tree) (o : MetricOptions) (s : Set Nat) : Nat := ∑ᶠ m ∈ s, cyclomatic t o m

variable {t : Tree} {o : MetricOptions} {b c d k m n : Nat}

section Counting

theorem mem_operations (shape : t.Preordered) : m ∈ operations t c ↔ m ∈ direct t c := by
  unfold operations
  cases body : t.childByField c "body" with
  | none => simp [direct,body]
  | some b =>
    have inside : b < t.size := Tree.parent_inside (Tree.childByField_parent shape body)
    have children := Tree.mem_children (c := m) shape inside
    simp [direct,body,children,and_comm]

theorem operations_nodup (shape : t.Preordered) (c : NodeId) : (operations t c).Nodup := by
  unfold operations
  cases body : t.childByField c "body" with
  | none => exact .nil
  | some b =>
    have inside : b < t.size := Tree.parent_inside (Tree.childByField_parent shape body)
    exact (Tree.children_nodup shape inside).filter _

theorem direct_eq (shape : t.Preordered) (c : NodeId) : direct t c = ↑(operations t c).toFinset := by
  ext m
  rw [List.coe_toFinset]
  exact (mem_operations shape).symm

theorem methodCount_ncard (shape : t.Preordered) (c : NodeId) :
    methodCount t c = (methodsIn t (direct t c)).ncard := by
  have same : { m | m ∈ operations t c ∧ decide (t.kind m = "method_declaration") = true } =
      methodsIn t (direct t c) := by
    ext m
    simp [methodsIn,mem_operations shape]
  rw [methodCount,Tree.countP_ncard (operations_nodup shape c),same]

theorem weight_operations (shape : t.Preordered) (o : MetricOptions) (c : NodeId) :
    weight t o (direct t c) = ((operations t c).map (cyclomatic t o)).sum := by
  rw [weight,direct_eq shape,finsum_mem_coe_finset,List.sum_toFinset _ (operations_nodup shape c)]

end Counting

section Bounds

-- The nodes that one callable is measured by: itself and its decisions.
def measured (t : Tree) (o : MetricOptions) (m : Nat) : Set Nat := insert m (decisions t o m)

theorem measured_ncard (shape : t.Preordered) (o : MetricOptions) (m : Nat) :
    (measured t o m).ncard = cyclomatic t o m := by
  have apart : m ∉ decisions t o m := fun own => Nat.lt_irrefl m (Tree.Above.lt shape own.1.below)
  rw [measured,Set.ncard_insert_of_notMem apart (t.counted_finite barriers (isDecision t o) m),cyclomatic,
    t.countBelow_ncard shape,Nat.add_comm]
  rfl

theorem measured_below (own : d ∈ measured t o m) : t.AtOrAbove m d := by
  rcases own with same | decision
  · exact same ▸ .refl
  · exact decision.1.below.to_reflTransGen

theorem direct_antichain (shape : t.Preordered) (c : NodeId) : IsAntichain t.Above (direct t c) := by
  intro m first n second different
  obtain ⟨_,b,body,one⟩ := first
  obtain ⟨_,_,again,two⟩ := second
  obtain rfl := Option.some.inj (body.symm.trans again)
  exact Tree.children_antichain shape b one two different

theorem direct_inside (member : m ∈ direct t c) : m < t.size := by
  obtain ⟨_,_,_,link⟩ := member
  exact Tree.parent_inside link

-- What the callables of a type are measured by are different nodes of the tree.
theorem weight_le (shape : t.Preordered) (o : MetricOptions) (c : NodeId) : weight t o (direct t c) ≤ t.size := by
  have finite : (direct t c).Finite := (Tree.within_size fun _ member => direct_inside member).1
  have each : ∀ m ∈ direct t c, (measured t o m).Finite := fun m _ =>
    (t.counted_finite barriers (isDecision t o) m).insert _
  have below : ∀ m ∈ direct t c, ∀ d ∈ measured t o m, t.AtOrAbove m d := fun _ _ _ own => measured_below own
  have inside : ∀ d ∈ ⋃ m ∈ direct t c, measured t o m, d < t.size := by
    intro d member
    obtain ⟨m,among,own⟩ := Set.mem_iUnion₂.mp member
    exact (measured_below own).inside (direct_inside among)
  calc
    weight t o (direct t c) = ∑ᶠ m ∈ direct t c, (measured t o m).ncard :=
      finsum_mem_congr rfl fun m _ => (measured_ncard shape o m).symm
    _ = (⋃ m ∈ direct t c, measured t o m).ncard :=
      (Tree.antichain_ncard finite each (direct_antichain shape c) below).symm
    _ ≤ t.size := (Tree.within_size inside).2

theorem cyclomatic_le (shape : t.Preordered) (o : MetricOptions) (inside : m < t.size) : cyclomatic t o m ≤ t.size := by
  rw [← measured_ncard shape]
  exact (Tree.within_size fun d own => (measured_below own).inside inside).2

theorem methodsIn_le (t : Tree) (c : NodeId) : (methodsIn t (direct t c)).ncard ≤ t.size :=
  (Tree.within_size fun _ member => direct_inside member.1).2

end Bounds

section Values

theorem sum_counts {ns : List Nat} (present : ns ≠ []) (some : ∀ n ∈ ns, n ≠ 0) (small : ns.sum < 2 ^ 53) :
    sum (ns.map Float.ofNat) = Float.ofNat ns.sum := by
  cases ns with
  | nil => exact absurd rfl present
  | cons n ns =>
    have first := some n List.mem_cons_self
    rw [List.sum_cons] at small ⊢
    rw [sum,List.map_cons,List.foldl_cons,Decimal.negativeZero_add first (by omega)]
    exact Decimal.sum_counts ns first (fun k member => some k (List.mem_cons_of_mem _ member)) small

-- The memo of a fresh tree holds nothing, and what the sum itself enters are the values that it asks for.
theorem wmc_measured (t : Tree) (o : MetricOptions) (c : NodeId) :
    (wmc.measure t o c Memo.empty).1 = sum (((operations t c).map (cyclo.value t o)).filterMap fun v => v) := by
  have each : ∀ n, Yields (Memo.Holds metrics t cyclo.options o) (cyclo.computeMemoized t o n) (cyclo.value t o n) :=
    fun n => memoized_exact metrics_keys List.mem_cons_self cyclo_reliable rfl (fun _ _ => rfl) fun _ known => known
  exact (wmc_yields each).fresh (Memo.empty_holds _ _ _ _)

theorem cyclo_value (shape : t.Preordered) (small : t.size < 2 ^ 53) (callable : isCallable t m = true)
    (inside : m < t.size) : cyclo.value t o m = some (Float.ofNat (cyclomatic t o m)) := by
  have bound := cyclomatic_le shape o inside
  exact Metric.value_of_measured callable rfl (Decimal.count_finite (by omega))

theorem operations_values (shape : t.Preordered) (small : t.size < 2 ^ 53) (o : MetricOptions) (c : NodeId) :
    ((operations t c).map (cyclo.value t o)).filterMap (fun v => v) =
      ((operations t c).map (cyclomatic t o)).map Float.ofNat := by
  rw [List.filterMap_map,List.map_map,← List.filterMap_eq_map]
  apply List.filterMap_congr
  intro m member
  have known := (mem_operations shape).mp member
  exact cyclo_value shape small known.1 (direct_inside known)

end Values

-- What the metrics of a type come to; the sum over no callables is the negative zero.
structure TypeMetrics (t : Tree) (o : MetricOptions) (c : NodeId) : Prop where
  number : nom.value t o c = some (Float.ofNat (methodsIn t (direct t c)).ncard)
  without : direct t c = ∅ → wmc.value t o c = some (-0.0)
  sum : (direct t c).Nonempty → wmc.value t o c = some (Float.ofNat (weight t o (direct t c)))

theorem typeMetrics_direct (shape : t.Preordered) (small : t.size < 2 ^ 53) (o : MetricOptions)
    (isType : isType t c = true) : TypeMetrics t o c := by
  have measured := wmc_measured t o c
  rw [operations_values shape small] at measured
  constructor
  case number =>
    have bound := methodsIn_le t c
    rw [← methodCount_ncard shape] at bound ⊢
    exact Metric.value_of_measured isType rfl (Decimal.count_finite (by omega))
  case without =>
    intro none
    have empty : operations t c = [] :=
      List.eq_nil_iff_forall_not_mem.mpr fun m member => Set.notMem_empty m (none ▸ (mem_operations shape).mp member)
    rw [empty] at measured
    exact Metric.value_of_measured isType measured (by decide +kernel)
  case sum =>
    intro some
    obtain ⟨m,member⟩ := some
    have present : (operations t c).map (cyclomatic t o) ≠ [] :=
      List.ne_nil_of_mem (List.mem_map_of_mem ((mem_operations shape).mpr member))
    have positive : ∀ n ∈ (operations t c).map (cyclomatic t o), n ≠ 0 := by
      intro n among
      obtain ⟨m,_,rfl⟩ := List.mem_map.mp among
      rw [cyclomatic]
      omega
    have bound := weight_le shape o c
    rw [weight_operations shape] at bound ⊢
    rw [sum_counts present positive (by omega)] at measured
    exact Metric.value_of_measured isType measured (Decimal.count_finite (by omega))

section Members

theorem bodyKinds_apart (body : t.kind k ∈ bodyKinds) : isType t k = false := by
  simp only [bodyKinds,barriers,List.mem_cons,List.not_mem_nil,or_false] at body
  rcases body with kind | kind | kind | kind | kind <;> simp [isType,typeKinds,kind]

-- A callable under a body is a member, as only the body stands between.
theorem direct_iff (shape : t.Preordered) (body : t.childByField c "body" = some b) (kind : t.kind b ∈ bodyKinds) :
    m ∈ direct t c ↔ Member t c m ∧ t.IsParent b m := by
  have upper := Tree.childByField_parent shape body
  constructor
  · rintro ⟨callable,_,again,link⟩
    obtain rfl := Option.some.inj (body.symm.trans again)
    refine ⟨⟨callable,.tail (.single upper) link,?_⟩,link⟩
    intro k later earlier
    rcases reflTransGen_iff_eq_or_transGen.mp ((Tree.above_iff link).mp earlier) with same | above
    · exact same ▸ kind
    · have low := Tree.AtOrAbove.le shape ((Tree.above_iff upper).mp above)
      have high := Tree.Above.lt shape later
      omega
  · rintro ⟨member,link⟩
    exact ⟨member.callable,b,body,link⟩

theorem Member.nearest (shape : t.Preordered) (isType : isType t c = true) (member : Member t c m) :
    (t.ancestors m).find? (Java.isType t) = some c :=
  (Tree.find_ancestor_iff shape _).mpr ⟨isType,member.below,fun k later earlier =>
    bodyKinds_apart (member.inBody k later earlier)⟩

theorem Member.className (shape : t.Preordered) (member : Member t c m) :
    (language.scope t m).className = (language.scope t c).className := by
  apply Declarations.className_kept (d := declarations) shape member.below.to_reflTransGen
  intro k between
  rcases reflTransGen_iff_eq_or_transGen.mp between.2 with same | earlier
  · exact declarations.apart t k (same ▸ member.callable)
  · exact bodyKinds_apart (member.inBody k between.1 earlier)

theorem weight_positive (finite : s.Finite) (member : m ∈ s) : 0 < weight t o s := by
  have own : cyclomatic t o m ≤ weight t o s := by
    rw [weight,finsum_mem_eq_finite_toFinset_sum _ finite]
    exact Finset.single_le_sum (fun _ _ => Nat.zero_le _) (finite.mem_toFinset.mpr member)
  have least : 0 < cyclomatic t o m := by
    rw [cyclomatic]
    omega
  omega

end Members

-- What a type with a proper body has for members, and which of them its metrics miss.
structure BodyMembers (t : Tree) (o : MetricOptions) (c b : NodeId) : Prop where
  counted : ∀ m, m ∈ direct t c ↔ Member t c m ∧ t.IsParent b m
  methods : (methodsIn t (members t c)).ncard =
    (methodsIn t (direct t c)).ncard + (methodsIn t (missed t c)).ncard
  weights : weight t o (members t c) = weight t o (direct t c) + weight t o (missed t c)
  complete : weight t o (direct t c) = weight t o (members t c) ↔ ∀ m, Member t c m → t.IsParent b m

theorem bodyMembers (shape : t.Preordered) (o : MetricOptions) (body : t.childByField c "body" = some b)
    (kind : t.kind b ∈ bodyKinds) : BodyMembers t o c b := by
  have counted : ∀ m, m ∈ direct t c ↔ Member t c m ∧ t.IsParent b m := fun m => direct_iff shape body kind
  have within : direct t c ⊆ members t c := fun m member => ((counted m).mp member).1
  have whole : direct t c ∪ missed t c = members t c := Set.union_sdiff_cancel within
  have apart : Disjoint (direct t c) (missed t c) := Set.disjoint_sdiff_right
  have finite : (members t c).Finite := (Tree.within_size fun _ member => member.below.inside).1
  have methods : methodsIn t (direct t c) ∪ methodsIn t (missed t c) = methodsIn t (members t c) := by
    rw [← whole]
    exact (Set.union_inter_distrib_right _ _ _).symm
  have weights : weight t o (members t c) = weight t o (direct t c) + weight t o (missed t c) := by
    rw [← whole]
    exact finsum_mem_union apart (finite.subset within) (finite.subset Set.sdiff_subset)
  refine ⟨counted,?_,weights,?_⟩
  · rw [← methods]
    exact Set.ncard_union_eq (apart.mono (Set.sep_subset _ _) (Set.sep_subset _ _))
      ((finite.subset within).subset (Set.sep_subset _ _)) ((finite.subset Set.sdiff_subset).subset (Set.sep_subset _ _))
  · rw [weights]
    constructor
    · intro same m member
      by_contra apart
      have other : m ∈ missed t c := ⟨member,fun own => apart ((counted m).mp own).2⟩
      have more : 0 < weight t o (missed t c) := weight_positive (finite.subset Set.sdiff_subset) other
      omega
    · intro all
      have none : missed t c = ∅ :=
        Set.sdiff_eq_empty.mpr fun m member => (counted m).mpr ⟨member,all m member⟩
      have nothing : weight t o ∅ = 0 := finsum_mem_empty
      rw [none,nothing,Nat.add_zero]

-- What types count, and whose members those are: what one type misses no other one counts.
theorem memberMetrics (t : Tree) (built : t.Built) (small : t.size < 2 ^ 53) (o : MetricOptions) :
    ∀ c, isType t c = true → TypeMetrics t o c ∧
      (∀ b, t.childByField c "body" = some b → t.kind b ∈ bodyKinds → BodyMembers t o c b) ∧
      ∀ m, Member t c m → (t.ancestors m).find? (isType t) = some c ∧
        (language.scope t m).className = (language.scope t c).className ∧
        ∀ d, isType t d = true → Member t d m ∨
          (∃ b, t.childByField d "body" = some b ∧ t.kind b ∈ bodyKinds ∧ m ∈ direct t d) → d = c := by
  have shape := built.wellFormed.toPreordered
  intro c isType
  refine ⟨typeMetrics_direct shape small o isType,fun b => bodyMembers shape o,?_⟩
  intro m member
  have nearest := member.nearest shape isType
  refine ⟨nearest,member.className shape,?_⟩
  intro d other again
  have own : Member t d m := by
    rcases again with also | ⟨b,body,kind,under⟩
    · exact also
    · exact ((direct_iff shape body kind).mp under).1
  exact Option.some.inj ((own.nearest shape other).symm.trans nearest)

theorem memberMetrics_local : localClass.Built ∧ isType localClass 1 = true ∧
    localClass.childByField 1 "body" = some 3 ∧ localClass.kind 3 ∈ bodyKinds ∧ Member localClass 1 4 ∧
    nom.value localClass .empty 1 = some 1 ∧ wmc.value localClass .empty 1 = some 1 ∧
    (language.scope localClass 4).className = some "Outer" := by
  have small : localClass.size < 2 ^ 53 := by decide +kernel
  have shape := localClass_built.wellFormed.toPreordered
  have isType : isType localClass 1 = true := by decide +kernel
  have body : localClass.childByField 1 "body" = some 3 := by decide +kernel
  have kind : localClass.kind 3 ∈ bodyKinds := by decide +kernel
  obtain ⟨metrics,members,own⟩ := memberMetrics localClass localClass_built small .empty 1 isType
  have inBody : 4 ∈ direct localClass 1 := ⟨by decide +kernel,3,body,rfl⟩
  have member := ((members 3 body kind).counted 4 |>.mp inBody).1
  have number := metrics.number
  rw [← methodCount_ncard shape] at number
  have total := metrics.sum ⟨4,inBody⟩
  rw [weight_operations shape] at total
  exact ⟨localClass_built,isType,body,kind,member,number.trans (by decide +kernel),total.trans (by decide +kernel),
    (own 4 member).2.1.trans (by decide +kernel)⟩

-- An enumeration without constants and with one method.
def enumerationSteps : List BuildStep :=
  let place := fun start stop : Nat => (⟨start,stop,1,start + 1,1,stop + 1⟩ : Span)
  [.openNode "program" none (place 0 24),.openNode "enum_declaration" none (place 0 24),
    .leaf "identifier" (some "name") (place 5 6),.openNode "enum_body" (some "body") (place 7 24),
    .openNode "enum_body_declarations" none (place 9 22),.openNode "method_declaration" none (place 11 22),
    .leaf "identifier" (some "name") (place 16 17),.leaf "block" (some "body") (place 20 22),.close,.close,.close,
    .close,.close]

def enumeration : Tree := ((Builder.start "java" "E.java" "enum E { ; void m() {} }").run enumerationSteps).tree

theorem enumeration_built : enumeration.Built :=
  ⟨_,_,_,enumerationSteps,Builder.finish_complete (by decide +kernel) (by decide +kernel) (by decide +kernel)⟩

theorem memberMetrics_enumeration : enumeration.Built ∧ isType enumeration 1 = true ∧
    Member enumeration 1 5 ∧ enumeration.kind 5 = "method_declaration" ∧
    (language.scope enumeration 5).className = some "E" ∧ nom.value enumeration .empty 1 = some 0 ∧
    cyclo.value enumeration .empty 5 = some 1 ∧ wmc.value enumeration .empty 1 = some (-0.0) := by
  have shape := enumeration_built.wellFormed.toPreordered
  have below : enumeration.Above 1 5 := (Tree.mem_ancestors shape).mp (by decide +kernel)
  have inBody : ∀ k, enumeration.Above 1 k → enumeration.Above k 5 → enumeration.kind k ∈ bodyKinds := by
    intro k later earlier
    have low := Tree.Above.lt shape later
    have known : ∀ k ∈ enumeration.ancestors 5, 1 < k → enumeration.kind k ∈ bodyKinds := by decide +kernel
    exact known k ((Tree.mem_ancestors shape).mpr earlier) low
  exact ⟨enumeration_built,by decide +kernel,⟨by decide +kernel,below,inBody⟩,by decide +kernel,by decide +kernel,
    by decide +kernel,by decide +kernel,by decide +kernel⟩

end TreeAudit.Java
