import TreeAudit.Java.Language
import TreeAudit.Proofs.Tree.Building

-- The package of a Java file. Scopes name it by whatever stands first in the declaration, and the attribute of
-- the declaration by its first identifier. They tell the same as long as nothing comes before the name: an
-- annotation in front of the declaration is told by scopes instead of the package.
namespace TreeAudit.Java

def isPackageName (t : Tree) (c : NodeId) : Bool := t.kind c = "scoped_identifier" || t.kind c = "identifier"

variable {t : Tree} {d e n : Nat} {kind : String}

theorem childOfKind_kind (found : t.childOfKind n kind = some d) : t.kind d = kind := by
  have right := List.find?_some (show (t.children n).find? (fun c => t.kind c = kind) = some d from found)
  exact of_decide_eq_true right

theorem packageName_attribute (declaration : t.kind d = "package_declaration") :
    language.attributeNamed? t d "PackageName" = some (.text (qualifiedName t d)) := by
  have own : attributes.apply t d = packageDeclaration t d := by
    rw [Dispatch.apply,declaration]
    rfl
  change Attribute.find? attributes.apply t d "PackageName" = _
  rw [Attribute.find?,own]
  rfl

theorem qualifiedName_found (named : (t.children d).find? (isPackageName t) = some e) :
    qualifiedName t d = t.text e := by
  change (((t.children d).find? (isPackageName t)).map t.text).getD "" = _
  rw [named]
  rfl

-- The first of a list is the first with some property exactly if it has the property.
theorem head_of_find {wanted : Nat → Bool} {list : List Nat} (found : list.find? wanted = some e) :
    ∃ f, list.head? = some f ∧ (wanted f = true ↔ f = e) := by
  cases list with
  | nil => cases found
  | cons f rest =>
    refine ⟨f,rfl,?_⟩
    constructor
    · intro here
      rw [List.find?_cons_of_pos here] at found
      exact Option.some.inj found
    · intro same
      rw [same]
      exact List.find?_some found

theorem packageName_none : packageName t = none ↔
    ∀ d, t.childOfKind Tree.root "package_declaration" = some d → t.children d = [] := by
  unfold packageName
  cases t.childOfKind Tree.root "package_declaration" with
  | none => simp
  | some d => simp [List.head?_eq_none_iff]

-- What scopes and the declaration itself say of the package. All scopes of a file say the same, and they agree
-- with the declaration exactly if its first child reads like its name.
theorem package_first (t : Tree) :
    (∀ n, (language.scope t n).package = none ↔
      ∀ d, t.childOfKind Tree.root "package_declaration" = some d → t.children d = []) ∧
    ∀ d e, t.childOfKind Tree.root "package_declaration" = some d →
      (t.children d).find? (isPackageName t) = some e →
      language.attributeNamed? t d "PackageName" = some (.text (t.text e)) ∧
      ∃ f, (t.children d).head? = some f ∧ (isPackageName t f = true ↔ f = e) ∧
        ∀ n, (language.scope t n).package = some (t.text f) ∧
          ((language.scope t n).package.map Atom.text = language.attributeNamed? t d "PackageName" ↔
            t.text f = t.text e) := by
  refine ⟨fun n => packageName_none,?_⟩
  intro d e declared named
  have own := packageName_attribute (childOfKind_kind declared)
  rw [qualifiedName_found named] at own
  obtain ⟨f,first,same⟩ := head_of_find named
  have told : packageName t = some (t.text f) := by
    rw [packageName,declared,Option.bind_some,first]
    rfl
  refine ⟨own,f,first,same,fun n => ⟨told,?_⟩⟩
  change (packageName t).map Atom.text = _ ↔ _
  rw [told,own]
  simp

def packageSteps (name : String) (before : List BuildStep) (start stop : Nat) : List BuildStep :=
  let place := fun start stop : Nat => (⟨start,stop,1,start + 1,1,stop + 1⟩ : Span)
  [.openNode "program" none (place 0 (stop + 1)),.openNode "package_declaration" none (place 0 (stop + 1))] ++
    before ++ [.leaf name none (place start stop),.close,.close]

-- A declaration of a package of two parts.
def plainPackage : Tree :=
  ((Builder.start "java" "P.java" "package a.b;").run (packageSteps "scoped_identifier" [] 8 11)).tree

theorem package_first_plain : plainPackage.childOfKind Tree.root "package_declaration" = some 1 ∧
    (plainPackage.children 1).find? (isPackageName plainPackage) = some 2 ∧
    language.attributeNamed? plainPackage 1 "PackageName" = some (.text "a.b") ∧
    ∀ n, (language.scope plainPackage n).package = some "a.b" := by
  have declared : plainPackage.childOfKind Tree.root "package_declaration" = some 1 := by decide +kernel
  have named : (plainPackage.children 1).find? (isPackageName plainPackage) = some 2 := by decide +kernel
  have text : plainPackage.text 2 = "a.b" := by decide +kernel
  obtain ⟨own,f,first,_,told⟩ := (package_first plainPackage).2 1 2 declared named
  obtain rfl : 2 = f := Option.some.inj (show some 2 = some f from first)
  rw [text] at own
  refine ⟨declared,named,own,fun n => ?_⟩
  rw [(told n).1,text]

-- A declaration behind an annotation.
def annotatedPackage : Tree :=
  let mark : List BuildStep := [.openNode "marker_annotation" none ⟨0,2,1,1,1,3⟩,
    .leaf "identifier" (some "name") ⟨1,2,1,2,1,3⟩,.close]
  ((Builder.start "java" "P.java" "@A package p;").run (packageSteps "identifier" mark 11 12)).tree

theorem package_first_annotated : annotatedPackage.Built ∧
    annotatedPackage.childOfKind Tree.root "package_declaration" = some 1 ∧
    (annotatedPackage.children 1).find? (isPackageName annotatedPackage) = some 4 ∧
    (language.scope annotatedPackage 0).package = some "@A" ∧
    language.attributeNamed? annotatedPackage 1 "PackageName" = some (.text "p") := by
  refine ⟨⟨_,_,_,_,Builder.finish_complete (by decide +kernel) (by decide +kernel) (by decide +kernel)⟩,
    by decide +kernel,by decide +kernel,by decide +kernel,?_⟩
  decide +kernel

end TreeAudit.Java
