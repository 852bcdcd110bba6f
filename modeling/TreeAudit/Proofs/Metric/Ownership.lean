import TreeAudit.Proofs.Metric.Complexity
import TreeAudit.Proofs.Tree.Antichain
import TreeAudit.Python.Language

-- The classes that Python definitions belong to. The members of a class are found down its fields and through
-- decorators, the class of a definition a fixed number of steps up. The way up undoes the way down as long as no
-- body of a class is itself taken for a decorated definition, so no function is counted for two classes.
namespace TreeAudit.Python

def PlainBodies (t : Tree) : Prop :=
  ∀ c b, isClass t c = true → t.childByField c "body" = some b → isDecorated t b = false

def classes (t : Tree) : Set Nat := { c | isClass t c = true }

-- The functions that are counted for a class.
def methodsOf (t : Tree) (c : NodeId) : Set Nat := { f | f ∈ classMembers t c ∧ isFunction t f = true }

variable {t : Tree} {b c d f k m : Nat}

theorem undecorated_cases (shape : t.Preordered) (k : Nat) :
    undecorated t k = k ∨ isDecorated t k = true ∧ t.IsParent k (undecorated t k) := by
  unfold undecorated
  split
  · rename_i decorated
    cases definition : t.childByField k "definition" with
    | none => exact .inl rfl
    | some m => exact .inr ⟨decorated,Tree.childByField_parent shape definition⟩
  · exact .inl rfl

theorem undecorated_below (shape : t.Preordered) (k : Nat) : t.AtOrAbove k (undecorated t k) := by
  rcases undecorated_cases shape k with same | ⟨_,link⟩
  · rw [same]
    exact .refl
  · exact .single link

-- Up again from what stands under a body, with or without decorators.
theorem enclosing_undecorated (shape : t.Preordered) (plain : isDecorated t b = false) (link : t.IsParent b k) :
    enclosing t (undecorated t k) = some b := by
  rcases undecorated_cases shape k with same | ⟨decorated,inner⟩
  · have up : t.parent (undecorated t k) = some b := by
      rw [same]
      exact link
    simp [enclosing,up,plain]
  · have up : t.parent (undecorated t k) = some k := inner
    have outer : t.parent k = some b := link
    simp [enclosing,up,decorated,outer]

theorem mem_classMembers (shape : t.Preordered) : m ∈ classMembers t c ↔
    ∃ b, t.childByField c "body" = some b ∧ ∃ k, t.IsParent b k ∧ undecorated t k = m := by
  unfold classMembers
  cases body : t.childByField c "body" with
  | none => simp
  | some b =>
    have inside : b < t.size := Tree.parent_inside (Tree.childByField_parent shape body)
    simp [Tree.mem_children shape inside]

theorem member_owner (shape : t.Preordered) (plain : PlainBodies t) (isClass : isClass t c = true)
    (member : m ∈ classMembers t c) : owningClass t m = some c := by
  obtain ⟨b,body,k,link,rfl⟩ := (mem_classMembers shape).mp member
  have upper : t.parent b = some c := Tree.childByField_parent shape body
  rw [owningClass,enclosing_undecorated shape (plain c b isClass body) link]
  simp [upper,isClass]

-- No definition is reached from two nodes of one body, as neither of these is above the other.
theorem classMembers_nodup (shape : t.Preordered) (c : NodeId) : (classMembers t c).Nodup := by
  unfold classMembers
  cases body : t.childByField c "body" with
  | none => exact .nil
  | some b =>
    have inside : b < t.size := Tree.parent_inside (Tree.childByField_parent shape body)
    have children := fun k => Tree.mem_children (c := k) shape inside
    refine (Tree.children_nodup shape inside).map_on fun k first m second same => ?_
    have below := undecorated_below shape m
    rw [← same] at below
    exact Tree.antichain_unique (Tree.children_antichain shape b) ((children k).mp first) ((children m).mp second)
      (undecorated_below shape k) below

theorem methodCount_ncard (shape : t.Preordered) (c : NodeId) : methodCount t c = (methodsOf t c).ncard :=
  Tree.countP_ncard (classMembers_nodup shape c) (isFunction t)

theorem isClass_inside (isClass : isClass t c = true) : c < t.size := by
  apply Nat.lt_of_not_le
  intro outside
  rw [Python.isClass,Tree.kind,Tree.node_outside outside] at isClass
  cases isClass

theorem icon_owned (function : isFunction t f = true) (owned : owningClass t f = some c) :
    icon t f = .constructor ↔ declaredName t f = some "__init__" := by
  have kind : t.kind f = "function_definition" := of_decide_eq_true function
  have other : isClass t f = false := by simp [isClass,kind]
  have owner : (owningClass t f).isSome = true := by simp [owned]
  simp [icon,other,function,owner]

-- What a class has for members. They are its own: the same function among those of another class makes that the
-- same class.
structure Owns (t : Tree) (o : MetricOptions) (c : NodeId) : Prop where
  owner : ∀ m ∈ classMembers t c, owningClass t m = some c
  single : ∀ d f, isClass t d = true → f ∈ methodsOf t c → f ∈ methodsOf t d → d = c
  number : (methodsOf t c).ncard < 2 ^ 53 → nom.value t o c = some (Float.ofNat (methodsOf t c).ncard)
  constructors : ∀ f ∈ methodsOf t c, icon t f = .constructor ↔ declaredName t f = some "__init__"

theorem owns (shape : t.Preordered) (plain : PlainBodies t) (o : MetricOptions) (isClass : isClass t c = true) :
    Owns t o c := by
  have owner : ∀ m ∈ classMembers t c, owningClass t m = some c := fun m => member_owner shape plain isClass
  refine ⟨owner,?_,?_,?_⟩
  · intro d f other first second
    have again := member_owner shape plain other second.1
    exact Option.some.inj (again.symm.trans (owner f first.1))
  · intro small
    rw [← methodCount_ncard shape] at small ⊢
    exact Metric.value_of_measured isClass rfl (Decimal.count_finite small)
  · intro f method
    exact icon_owned method.2 (owner f method.1)

-- The members of classes belong to these classes and no others, so the numbers of methods of all classes add up
-- to the number of functions that are methods at all.
theorem members_owned (t : Tree) (built : t.Built) (plain : PlainBodies t) (o : MetricOptions) :
    (∀ c, isClass t c = true → Owns t o c) ∧
      ∑ᶠ c ∈ classes t, methodCount t c = (⋃ c ∈ classes t, methodsOf t c).ncard := by
  have shape := built.wellFormed.toPreordered
  have owned : ∀ c, isClass t c = true → Owns t o c := fun c => owns shape plain o
  refine ⟨owned,?_⟩
  have finite : (classes t).Finite := (Tree.within_size fun _ => isClass_inside).1
  have each : ∀ c ∈ classes t, (methodsOf t c).Finite := fun c _ =>
    (classMembers t c).finite_toSet.subset fun _ method => method.1
  have apart : (classes t).PairwiseDisjoint (methodsOf t) := by
    intro c first d second different
    apply Set.disjoint_left.mpr
    intro f one two
    exact different ((owned c first).single d f second one two).symm
  rw [finite.ncard_biUnion each apart]
  exact finsum_mem_congr rfl fun c _ => methodCount_ncard shape c

-- A class with a decorated method and a constructor.
def decoratedSteps : List BuildStep := [
  .openNode "module" none ⟨0,49,1,1,4,22⟩,.openNode "class_definition" none ⟨0,49,1,1,4,22⟩,
  .leaf "identifier" (some "name") ⟨6,7,1,7,1,8⟩,.openNode "block" (some "body") ⟨10,49,2,2,4,22⟩,
  .openNode "decorated_definition" none ⟨10,27,2,2,3,15⟩,.leaf "decorator" none ⟨10,12,2,2,2,4⟩,
  .openNode "function_definition" (some "definition") ⟨14,27,3,2,3,15⟩,
  .leaf "identifier" (some "name") ⟨18,19,3,6,3,7⟩,.close,.close,
  .openNode "function_definition" none ⟨29,49,4,2,4,22⟩,.leaf "identifier" (some "name") ⟨33,41,4,6,4,14⟩,
  .close,.close,.close,.close]

def decoratedClass : Tree :=
  ((Builder.start "python" "a.py" "class A:\n @x\n def f(): pass\n def __init__(): pass").run decoratedSteps).tree

theorem decoratedClass_built : decoratedClass.Built :=
  ⟨_,_,_,decoratedSteps,Builder.finish_complete (by decide +kernel) (by decide +kernel) (by decide +kernel)⟩

theorem members_owned_decorated : decoratedClass.Built ∧ PlainBodies decoratedClass ∧
    isClass decoratedClass 1 = true ∧ classMembers decoratedClass 1 = [6,8] ∧
    owningClass decoratedClass 6 = some 1 ∧ icon decoratedClass 6 ≠ .constructor ∧
    icon decoratedClass 8 = .constructor ∧ nom.value decoratedClass .empty 1 = some 2 := by
  have plain : PlainBodies decoratedClass := by
    intro c b isClass body
    have inside : c < 10 := isClass_inside isClass
    have bodies : ∀ c < 10, ∀ b ∈ decoratedClass.childByField c "body", isDecorated decoratedClass b = false := by
      decide +kernel
    exact bodies c inside b body
  have isClass : isClass decoratedClass 1 = true := by decide +kernel
  have listed : classMembers decoratedClass 1 = [6,8] := by decide +kernel
  have owned := (members_owned decoratedClass decoratedClass_built plain .empty).1 1 isClass
  have first : 6 ∈ methodsOf decoratedClass 1 := ⟨by simp [listed],by decide +kernel⟩
  have second : 8 ∈ methodsOf decoratedClass 1 := ⟨by simp [listed],by decide +kernel⟩
  have two : (methodsOf decoratedClass 1).ncard = 2 := by
    rw [← methodCount_ncard decoratedClass_built.wellFormed.toPreordered]
    decide +kernel
  refine ⟨decoratedClass_built,plain,isClass,listed,owned.owner 6 first.1,?_,?_,?_⟩
  · exact fun same => absurd ((owned.constructors 6 first).mp same) (by decide +kernel)
  · exact (owned.constructors 8 second).mpr (by decide +kernel)
  · rw [owned.number (by omega),two]
    rfl

end TreeAudit.Python
