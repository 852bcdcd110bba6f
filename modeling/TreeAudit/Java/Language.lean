import TreeAudit.Java.Attributes
import TreeAudit.Java.Metrics
import TreeAudit.Language

-- Java as a language of analysis: its functions, the declarations around a node, and how nodes are
-- shown.
namespace TreeAudit.Java

open Query

def annotationTest (r : ArgumentReader := .lenient) : QueryFunction where
  name := "hasAnnotation"
  parameters := [.one .string]
  result := .one .boolean
  needsFocus := true
  call := fun c args => do
    let id ← c.focusNode
    let wanted ← r.text args 0
    pure (Value.truth ((annotations c.tree id).any (annotationMatches · wanted)))
  check := none

def modifierList : QueryFunction where
  name := "modifiers"
  parameters := []
  result := .several .string
  needsFocus := true
  call := fun c _ => do
    let id ← c.focusNode
    pure ((modifiers c.tree id).map .text)
  check := none

def packageName (t : Tree) : Option String :=
  ((t.childOfKind Tree.root "package_declaration").bind fun p => (t.children p).head?).map t.text

def className (t : Tree) (id : NodeId) : Option String :=
  let names := (((id :: t.ancestors id).filter (isType t)).filterMap (declaredName t)).reverse
  if names.isEmpty then none else some ("$".intercalate names)

def methodName (t : Tree) (id : NodeId) : Option String :=
  (((id :: t.ancestors id).takeWhile fun n => !isType t n).find? (isCallable t)).bind
    (declaredName t)

def scope (t : Tree) (id : NodeId) : Scope := ⟨packageName t, className t id, methodName t id⟩

def mainAttribute (t : Tree) (id : NodeId) : Option String :=
  if isType t id then some "SimpleName"
  else if isCallable t id || t.kind id = "variable_declarator" then some "Name"
  else none

def icon (t : Tree) (id : NodeId) : Icon :=
  match t.kind id with
  | "field_declaration" => .field
  | "method_declaration" => .method
  | "constructor_declaration" | "compact_constructor_declaration" => .constructor
  | "variable_declarator" | "formal_parameter" | "spread_parameter" => .variable
  | _ => if isType t id then .type else .other

def typedKinds : List String := [
  "field_declaration", "local_variable_declaration", "formal_parameter", "spread_parameter",
  "method_declaration"]

def details (t : Tree) (id : NodeId) : List String :=
  if typedKinds.contains (t.kind id) then
    ((t.childByField id "type").map fun ty => "Type: " ++ t.text ty).toList
  else []

-- The tree of a source without text: a root alone. Text needs a grammar.
def parse (source file : String) : Parsing :=
  if source.isEmpty then
    match Tree.ofOutline "java" file source [⟨0, "program", none, ⟨0, 0, 1, 1, 1, 1⟩, []⟩] with
    | .ok t => .tree t
    | .error e => .failed (.malformed e.message)
  else .failed (.noGrammar "no grammar for Java text")

def language : Language where
  id := "java"
  displayName := "Java"
  extensions := ["java"]
  parser := .ok parse
  attributes := attributes.apply
  metrics := metrics
  functions := [annotationTest, modifierList]
  scope := scope
  mainAttribute := mainAttribute
  icon := icon
  details := details

end TreeAudit.Java
