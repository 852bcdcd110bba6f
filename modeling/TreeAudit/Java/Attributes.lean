import TreeAudit.Attribute
import TreeAudit.Java.Declaration
import TreeAudit.Tree.Dispatch

-- Attributes of Java nodes by kind: names, arities, types and modifiers of declarations, operators,
-- imported names and the texts of literals.
namespace TreeAudit.Java

open Attribute

def literalKinds : List String := [
  "decimal_integer_literal", "hex_integer_literal", "octal_integer_literal",
  "binary_integer_literal", "decimal_floating_point_literal", "hex_floating_point_literal",
  "character_literal", "string_literal", "text_block", "null_literal", "true", "false"]

def operatorKinds : List String := [
  "binary_expression", "unary_expression", "assignment_expression", "update_expression"]

def visibility (t : Tree) (id : NodeId) : String :=
  (["public", "protected", "private"].find? (hasModifier t id)).getD "package"

def modifierFlags (t : Tree) (id : NodeId) : List Attribute := [
  text "Visibility" (visibility t id),
  truth "Static" (hasModifier t id "static"),
  truth "Final" (hasModifier t id "final")]

def isParameter (t : Tree) (id : NodeId) : Bool :=
  t.kind id = "formal_parameter" || t.kind id = "spread_parameter"

def arity (t : Tree) (id : NodeId) : Nat :=
  match t.childByField id "parameters" with
  | some p => (t.children p).countP (isParameter t)
  | none => 0

def typeText (t : Tree) (id : NodeId) : String := ((t.childByField id "type").map t.text).getD ""

def nameText (t : Tree) (id : NodeId) : String := (declaredName t id).getD ""

def firstVariable (t : Tree) (id : NodeId) : String :=
  ((t.childByField id "declarator").bind (declaredName t)).getD ""

def inInterface (t : Tree) (id : NodeId) : Bool :=
  ((t.parent id).bind t.parent).any fun d => t.kind d = "interface_declaration"

def typeDeclaration (t : Tree) (id : NodeId) : List Attribute :=
  [text "SimpleName" (nameText t id), text "Image" (nameText t id)] ++ modifierFlags t id ++
    [truth "Abstract" (hasModifier t id "abstract" || t.kind id = "interface_declaration")]

def method (t : Tree) (id : NodeId) : List Attribute :=
  [text "Name" (nameText t id), count "Arity" (arity t id), text "ResultType" (typeText t id),
    truth "Void" (typeText t id = "void")] ++ modifierFlags t id ++
    [truth "Abstract" (hasModifier t id "abstract" ||
      (inInterface t id && (t.childByField id "body").isNone))]

def constructor (t : Tree) (id : NodeId) : List Attribute := [
  text "Name" (nameText t id), count "Arity" (arity t id), text "Visibility" (visibility t id)]

def fieldDeclaration (t : Tree) (id : NodeId) : List Attribute :=
  [text "TypeName" (typeText t id), text "VariableName" (firstVariable t id)] ++ modifierFlags t id

def localVariable (t : Tree) (id : NodeId) : List Attribute := [
  text "TypeName" (typeText t id), text "VariableName" (firstVariable t id),
  truth "Final" (hasModifier t id "final")]

-- A parameter; one of variable arity keeps its name in a declarator.
def parameter (t : Tree) (id : NodeId) : List Attribute :=
  let name := (declaredName t id).or
    ((t.childOfKind id "variable_declarator").bind (declaredName t))
  [text "TypeName" (typeText t id), text "VariableName" (name.getD ""),
    truth "Final" (hasModifier t id "final")]

def variableDeclarator (t : Tree) (id : NodeId) : List Attribute := [text "Name" (nameText t id)]

def methodInvocation (t : Tree) (id : NodeId) : List Attribute := [
  text "MethodName" (nameText t id)]

def operator (t : Tree) (id : NodeId) : List Attribute :=
  ((t.token id "operator").map (text "Operator")).toList

def qualifiedName (t : Tree) (id : NodeId) : String :=
  (((t.children id).find? fun c =>
    t.kind c = "scoped_identifier" || t.kind c = "identifier").map t.text).getD ""

def importDeclaration (t : Tree) (id : NodeId) : List Attribute :=
  let name := qualifiedName t id
  [text "ImportedName" (if (t.childOfKind id "asterisk").isSome then name ++ ".*" else name),
    truth "Static" ((t.tokensByField id "keyword").contains "static")]

def packageDeclaration (t : Tree) (id : NodeId) : List Attribute := [
  text "PackageName" (qualifiedName t id)]

def literal (t : Tree) (id : NodeId) : List Attribute := [text "Image" (t.text id)]

def attributes : Dispatch (List Attribute) :=
  (Dispatch.mk (fun _ _ => []) [])
    |>.onEach typeKinds typeDeclaration
    |>.on "method_declaration" method
    |>.on "constructor_declaration" constructor
    |>.on "compact_constructor_declaration" constructor
    |>.on "field_declaration" fieldDeclaration
    |>.on "local_variable_declaration" localVariable
    |>.on "formal_parameter" parameter
    |>.on "spread_parameter" parameter
    |>.on "variable_declarator" variableDeclarator
    |>.on "method_invocation" methodInvocation
    |>.onEach operatorKinds operator
    |>.on "import_declaration" importDeclaration
    |>.on "package_declaration" packageDeclaration
    |>.onEach literalKinds literal

end TreeAudit.Java
