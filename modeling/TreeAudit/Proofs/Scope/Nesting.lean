import TreeAudit.Languages
import TreeAudit.Proofs.Tree.Ancestry
import TreeAudit.Proofs.Tree.Building

-- The declarations around a node. What a scope says of a node is told by what it says of the parent alone, in
-- every language that names types and callables along the ancestors. A type goes on with the path of the types
-- around it and closes off the callables around it.
namespace TreeAudit

-- What a language takes for a type and for a callable, and how it writes one type inside another.
structure Declarations where
  isType : Tree → NodeId → Bool
  isCallable : Tree → NodeId → Bool
  name : Tree → NodeId → Option String
  separator : String
  apart : ∀ t n, isCallable t n = true → isType t n = false

namespace Declarations

-- The names of the types at and above a node, the outermost first.
def typePath (d : Declarations) (t : Tree) (n : NodeId) : List String :=
  (((n :: t.ancestors n).filter (d.isType t)).filterMap (d.name t)).reverse

def joined (d : Declarations) (path : List String) : Option String :=
  if path.isEmpty then none else some (d.separator.intercalate path)

def className (d : Declarations) (t : Tree) (n : NodeId) : Option String := d.joined (d.typePath t n)

def methodName (d : Declarations) (t : Tree) (n : NodeId) : Option String :=
  (((n :: t.ancestors n).takeWhile fun k => !d.isType t k).find? (d.isCallable t)).bind (d.name t)

def extended (d : Declarations) (outer : Option String) (name : String) : String :=
  match outer with
  | some path => path ++ d.separator ++ name
  | none => name

-- What a node makes of the class that it stands in, and of the method.
def classFrom (d : Declarations) (t : Tree) (outer : Option String) (n : NodeId) : Option String :=
  match d.isType t n, d.name t n with
  | true, some name => some (d.extended outer name)
  | _, _ => outer

def methodFrom (d : Declarations) (t : Tree) (outer : Option String) (n : NodeId) : Option String :=
  if d.isType t n then none else if d.isCallable t n then d.name t n else outer

-- `k` stands below `a` and at or above `n`.
def Between (t : Tree) (a n k : Nat) : Prop := t.Above a k ∧ t.AtOrAbove k n

-- A scope that every node has from its parent. A method is only told of what stands in it without a type between
-- them: a node in a local class has the path of that class, which goes on from the path of the class around the
-- method, but not the method.
structure Inherits (d : Declarations) (t : Tree) (scope : NodeId → Scope) : Prop where
  child : ∀ p n, t.IsParent p n → (scope n).className = d.classFrom t (scope p).className n ∧
    (scope n).method = d.methodFrom t (scope p).method n
  top : ∀ n, t.parent n = none → (scope n).className = d.classFrom t none n ∧
    (scope n).method = d.methodFrom t none n
  callable : ∀ n, d.isCallable t n = true → (scope n).method = d.name t n
  closed : ∀ c n s, d.isType t c = true → t.AtOrAbove c n → (scope n).method = some s →
    ∃ k, Between t c n k ∧ d.isCallable t k = true ∧ d.name t k = some s
  inside : ∀ m c n, d.isType t c = true → t.Above m c → t.AtOrAbove c n →
    (∀ k, Between t m c k → d.isType t k = true → k = c) →
    (∀ k, Between t c n k → d.isType t k = false ∧ d.isCallable t k = false) →
    (scope n).method = none ∧ (scope n).className = d.classFrom t (scope m).className c

section Lineage
variable {d : Declarations} {t : Tree} {a c m n p : Nat} {s : String} {path : List String}

theorem joined_concat (d : Declarations) (path : List String) (s : String) :
    d.joined (path ++ [s]) = some (d.extended (d.joined path) s) := by
  cases path with
  | nil => simp [joined,extended]
  | cons first rest =>
    rw [joined,joined,String.intercalate_append_of_ne_nil (List.cons_ne_nil _ _) (List.cons_ne_nil _ _)]
    simp [extended]

-- The path of the node itself goes behind the path that leads to it.
theorem joined_from (lineage : List NodeId) (n : NodeId) :
    d.joined (((n :: lineage).filter (d.isType t)).filterMap (d.name t)).reverse =
      d.classFrom t (d.joined ((lineage.filter (d.isType t)).filterMap (d.name t)).reverse) n := by
  cases isType : d.isType t n with
  | false => simp [classFrom,isType]
  | true =>
    cases named : d.name t n with
    | none => simp [classFrom,isType,named]
    | some s =>
      rw [List.filter_cons_of_pos isType,List.filterMap_cons_some named,List.reverse_cons,joined_concat]
      simp [classFrom,isType,named]

theorem method_from (lineage : List NodeId) (n : NodeId) :
    (((n :: lineage).takeWhile fun k => !d.isType t k).find? (d.isCallable t)).bind (d.name t) =
      d.methodFrom t (((lineage.takeWhile fun k => !d.isType t k).find? (d.isCallable t)).bind (d.name t)) n := by
  cases isType : d.isType t n with
  | true => simp [methodFrom,isType]
  | false => cases callable : d.isCallable t n <;> simp [methodFrom,isType,callable]

theorem className_child (shape : t.Preordered) (link : t.IsParent p n) :
    d.className t n = d.classFrom t (d.className t p) n := by
  rw [className,typePath,joined_from,Tree.ancestors_step shape link]
  rfl

theorem methodName_child (shape : t.Preordered) (link : t.IsParent p n) :
    d.methodName t n = d.methodFrom t (d.methodName t p) n := by
  rw [methodName,method_from,Tree.ancestors_step shape link]
  rfl

theorem className_top (top : t.parent n = none) : d.className t n = d.classFrom t none n := by
  rw [className,typePath,joined_from,Tree.ancestors_top top]
  rfl

theorem methodName_top (top : t.parent n = none) : d.methodName t n = d.methodFrom t none n := by
  rw [methodName,method_from,Tree.ancestors_top top]
  rfl

theorem classFrom_plain {outer : Option String} (plain : d.isType t n = false) :
    d.classFrom t outer n = outer := by
  simp [classFrom,plain]

theorem methodFrom_type {outer : Option String} (isType : d.isType t n = true) :
    d.methodFrom t outer n = none := by
  simp [methodFrom,isType]

theorem methodFrom_plain {outer : Option String} (plain : d.isType t n = false ∧ d.isCallable t n = false) :
    d.methodFrom t outer n = outer := by
  simp [methodFrom,plain.1,plain.2]

theorem methodFrom_callable {outer : Option String} (callable : d.isCallable t n = true) :
    d.methodFrom t outer n = d.name t n := by
  simp [methodFrom,d.apart t n callable,callable]

-- What a declaration says of itself does not depend on what is around it.
theorem methodName_own (shape : t.Preordered) {answer : Option String}
    (own : ∀ outer, d.methodFrom t outer n = answer) : d.methodName t n = answer := by
  cases up : t.parent n with
  | none => rw [methodName_top up,own]
  | some p => rw [methodName_child shape up,own]

theorem methodName_type (shape : t.Preordered) (isType : d.isType t n = true) : d.methodName t n = none :=
  methodName_own shape fun _ => methodFrom_type isType

-- Along a chain without types the class stays, and without callables the method does.
theorem className_kept (shape : t.Preordered) (chain : t.AtOrAbove a n)
    (plain : ∀ k, Between t a n k → d.isType t k = false) : d.className t n = d.className t a := by
  induction chain with
  | refl => rfl
  | @tail p n chain link ih =>
    have here : d.isType t n = false := plain n ⟨.tail' chain link,.refl⟩
    rw [className_child shape link,classFrom_plain here]
    apply ih
    intro k between
    exact plain k ⟨between.1,between.2.tail link⟩

theorem methodName_kept (shape : t.Preordered) (chain : t.AtOrAbove a n)
    (plain : ∀ k, Between t a n k → d.isType t k = false ∧ d.isCallable t k = false) :
    d.methodName t n = d.methodName t a := by
  induction chain with
  | refl => rfl
  | @tail p n chain link ih =>
    have here := plain n ⟨.tail' chain link,.refl⟩
    rw [methodName_child shape link,methodFrom_plain here]
    apply ih
    intro k between
    exact plain k ⟨between.1,between.2.tail link⟩

-- Induction on the way down from the type: each node has a method from its own name or from its parent.
theorem methodName_below (shape : t.Preordered) (isType : d.isType t c = true) (chain : t.AtOrAbove c n)
    (told : d.methodName t n = some s) :
    ∃ k, Between t c n k ∧ d.isCallable t k = true ∧ d.name t k = some s := by
  induction chain with
  | refl =>
    rw [methodName_type shape isType] at told
    cases told
  | @tail p n chain link ih =>
    rw [methodName_child shape link] at told
    unfold methodFrom at told
    split at told
    · cases told
    · split at told
      · rename_i callable
        exact ⟨n,⟨.tail' chain link,.refl⟩,callable,told⟩
      · obtain ⟨k,between,callable,named⟩ := ih told
        exact ⟨k,⟨between.1,between.2.tail link⟩,callable,named⟩

-- The type itself makes its path from that of its parent, up to which no type stands below the method.
theorem className_inner (shape : t.Preordered) (above : t.Above m c)
    (single : ∀ k, Between t m c k → d.isType t k = true → k = c) :
    d.className t c = d.classFrom t (d.className t m) c := by
  obtain ⟨p,chain,link⟩ := Relation.TransGen.tail'_iff.mp above
  rw [className_child shape link,className_kept shape chain]
  intro k between
  apply Bool.eq_false_iff.mpr
  intro isType
  have same := single k ⟨between.1,between.2.tail link⟩ isType
  have low := Tree.AtOrAbove.le shape between.2
  have high := shape.parent_lt link
  omega

theorem inherits (d : Declarations) (shape : t.Preordered) {scope : NodeId → Scope}
    (classes : ∀ n, (scope n).className = d.className t n) (methods : ∀ n, (scope n).method = d.methodName t n) :
    d.Inherits t scope := by
  constructor
  case child =>
    intro p n link
    rw [classes,classes,methods,methods]
    exact ⟨className_child shape link,methodName_child shape link⟩
  case top =>
    intro n up
    rw [classes,methods]
    exact ⟨className_top up,methodName_top up⟩
  case callable =>
    intro n callable
    rw [methods]
    exact methodName_own shape fun _ => methodFrom_callable callable
  case closed =>
    intro c n s isType chain told
    rw [methods] at told
    exact methodName_below shape isType chain told
  case inside =>
    intro m c n isType above chain single plain
    rw [methods,classes,classes,methodName_kept shape chain plain,methodName_type shape isType]
    refine ⟨rfl,?_⟩
    rw [className_kept shape chain fun k between => (plain k between).1]
    exact className_inner shape above single

end Lineage

end Declarations

def Java.declarations : Declarations where
  isType := isType
  isCallable := isCallable
  name := declaredName
  separator := "$"
  apart := by
    intro t n callable
    simp only [isCallable,isType,callableKinds,typeKinds,List.contains_iff_mem,List.mem_cons,List.not_mem_nil,
      or_false] at callable ⊢
    rcases callable with kind | kind | kind <;> simp [kind]

def Python.declarations : Declarations where
  isType := isClass
  isCallable := isFunction
  name := declaredName
  separator := "."
  apart := by
    intro t n function
    have kind : t.kind n = "function_definition" := of_decide_eq_true function
    simp [isClass,kind]

-- The scopes of both languages are handed down the tree.
theorem scope_inherited (t : Tree) (built : t.Built) :
    Java.declarations.Inherits t (Java.language.scope t) ∧
      Python.declarations.Inherits t (Python.language.scope t) := by
  have shape := built.wellFormed.toPreordered
  exact ⟨Java.declarations.inherits shape (fun _ => rfl) fun _ => rfl,
    Python.declarations.inherits shape (fun _ => rfl) fun _ => rfl⟩

-- A class whose method has a class with a field.
def localSteps : List BuildStep :=
  let place := fun start stop : Nat => (⟨start,stop,1,start + 1,1,stop + 1⟩ : Span)
  [.openNode "program" none (place 0 53),.openNode "class_declaration" none (place 0 53),
    .leaf "identifier" (some "name") (place 6 11),.openNode "class_body" (some "body") (place 12 53),
    .openNode "method_declaration" none (place 14 51),.leaf "identifier" (some "name") (place 19 22),
    .openNode "block" (some "body") (place 25 51),.openNode "class_declaration" none (place 27 49),
    .leaf "identifier" (some "name") (place 33 38),.openNode "class_body" (some "body") (place 39 49),
    .leaf "field_declaration" none (place 41 46),.close,.close,.close,.close,.close,.close,.close]

def localClass : Tree :=
  ((Builder.start "java" "A.java" "class Outer { void run() { class Local { int x; } } }").run localSteps).tree

theorem localClass_built : localClass.Built :=
  ⟨_,_,_,localSteps,Builder.finish_complete (by decide +kernel) (by decide +kernel) (by decide +kernel)⟩

theorem scope_inherited_local : localClass.Built ∧ Java.isCallable localClass 4 = true ∧
    (Java.language.scope localClass 4).method = some "run" ∧ Java.isType localClass 7 = true ∧
    localClass.Above 4 7 ∧ localClass.AtOrAbove 7 10 ∧ (Java.language.scope localClass 10).method = none ∧
    (Java.language.scope localClass 10).className = some "Outer$Local" := by
  obtain ⟨java,_⟩ := scope_inherited localClass localClass_built
  have shape := localClass_built.wellFormed.toPreordered
  have isType : Java.isType localClass 7 = true := by decide +kernel
  have callable : Java.isCallable localClass 4 = true := by decide +kernel
  have above : localClass.Above 4 7 := .tail (.single (show localClass.IsParent 4 6 from rfl)) rfl
  have chain : localClass.AtOrAbove 7 10 := .tail (.single (show localClass.IsParent 7 9 from rfl)) rfl
  have single : ∀ k, Declarations.Between localClass 4 7 k → Java.isType localClass k = true → k = 7 := by
    intro k between known
    have low := Tree.Above.lt shape between.1
    have high := Tree.AtOrAbove.le shape between.2
    have other : ∀ k < 8, 4 < k → Java.isType localClass k = true → k = 7 := by decide +kernel
    exact other k (Nat.lt_succ_of_le high) low known
  have plain : ∀ k, Declarations.Between localClass 7 10 k →
      Java.isType localClass k = false ∧ Java.isCallable localClass k = false := by
    intro k between
    have low := Tree.Above.lt shape between.1
    have high := Tree.AtOrAbove.le shape between.2
    have other : ∀ k < 11, 7 < k → Java.isType localClass k = false ∧ Java.isCallable localClass k = false := by
      decide +kernel
    exact other k (Nat.lt_succ_of_le high) low
  obtain ⟨none,path⟩ := java.inside 4 7 10 isType above chain single plain
  have named := java.callable 4 callable
  exact ⟨localClass_built,callable,named.trans (by decide +kernel),isType,above,chain,none,
    path.trans (by decide +kernel)⟩

end TreeAudit
