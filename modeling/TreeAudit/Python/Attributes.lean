import TreeAudit.Attribute
import TreeAudit.Python.Definition
import TreeAudit.Tree.Dispatch

-- Attributes of Python nodes by kind: names and arities of definitions, operators, imported names and
-- the texts of literals.
namespace TreeAudit.Python

open Attribute

-- What is a parameter; separators are none.
def parameterKinds : List String := [
  "identifier", "typed_parameter", "default_parameter", "typed_default_parameter",
  "list_splat_pattern", "dictionary_splat_pattern"]

def operatorKinds : List String := [
  "binary_operator", "boolean_operator", "unary_operator", "not_operator",
  "augmented_assignment", "comparison_operator"]

def arity (t : Tree) (id : NodeId) : Nat :=
  match t.childByField id "parameters" with
  | some p => (t.children p).countP fun c => parameterKinds.contains (t.kind c)
  | none => 0

def nameText (t : Tree) (id : NodeId) : String := (declaredName t id).getD ""

def functionDefinition (t : Tree) (id : NodeId) : List Attribute := [
  text "Name" (nameText t id), count "Arity" (arity t id),
  truth "Async" ((t.tokensByField id "keyword").contains "async")]

def classDefinition (t : Tree) (id : NodeId) : List Attribute := [text "Name" (nameText t id)]

-- The operators of an expression; a comparison can have several.
def operators (t : Tree) (id : NodeId) : List String :=
  match t.kind id with
  | "comparison_operator" => t.tokensByField id "operators"
  | "not_operator" => ["not"]
  | _ => (t.token id "operator").toList

def operator (t : Tree) (id : NodeId) : List Attribute :=
  let ops := operators t id
  if ops.isEmpty then [] else [text "Operator" (" ".intercalate ops)]

-- The name that is imported, without its alias.
def importedName (t : Tree) (id : NodeId) : String :=
  if t.kind id = "aliased_import" then nameText t id else t.text id

def importStatement (t : Tree) (id : NodeId) : List Attribute := [
  text "ImportedName" (", ".intercalate ((t.childrenByField id "name").map (importedName t)))]

def importFromStatement (t : Tree) (id : NodeId) : List Attribute := [
  text "ImportedName" (((t.childByField id "module_name").map t.text).getD "")]

def literal (t : Tree) (id : NodeId) : List Attribute := [text "Image" (t.text id)]

def attributes : Dispatch (List Attribute) :=
  (Dispatch.mk (fun _ _ => []) [])
    |>.on "function_definition" functionDefinition
    |>.on "class_definition" classDefinition
    |>.onEach operatorKinds operator
    |>.on "import_statement" importStatement
    |>.on "import_from_statement" importFromStatement
    |>.onEach ["string", "concatenated_string", "integer", "float"] literal

end TreeAudit.Python
