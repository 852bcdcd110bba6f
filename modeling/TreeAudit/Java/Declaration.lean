import TreeAudit.Tree.Walk

-- Declarations in Java trees: types, callables, their names and modifiers.
namespace TreeAudit.Java

def typeKinds : List String := [
  "class_declaration", "interface_declaration", "enum_declaration", "record_declaration",
  "annotation_type_declaration"]

def callableKinds : List String := [
  "method_declaration", "constructor_declaration", "compact_constructor_declaration"]

def isType (t : Tree) (id : NodeId) : Bool := typeKinds.contains (t.kind id)
def isCallable (t : Tree) (id : NodeId) : Bool := callableKinds.contains (t.kind id)

def declaredName (t : Tree) (id : NodeId) : Option String := (t.childByField id "name").map t.text

def modifiers (t : Tree) (id : NodeId) : List String :=
  match t.childOfKind id "modifiers" with
  | some m => t.tokensByField m "keyword"
  | none => []

def hasModifier (t : Tree) (id : NodeId) (modifier : String) : Bool :=
  (modifiers t id).contains modifier

def annotations (t : Tree) (id : NodeId) : List String :=
  match t.childOfKind id "modifiers" with
  | some m =>
    ((t.children m).filter fun c => t.kind c = "marker_annotation" || t.kind c = "annotation").filterMap
      (declaredName t)
  | none => []

def simpleName (s : String) : String :=
  String.ofList (s.toList.reverse.takeWhile (· ≠ '.')).reverse

def isDotted (s : String) : Bool := s.toList.contains '.'

-- Whether a written annotation is the wanted one. If only one of the names is qualified, the simple
-- names are compared.
def annotationMatches (written wanted : String) : Bool :=
  if isDotted written && isDotted wanted then written = wanted
  else simpleName written = simpleName wanted

def operations (t : Tree) (id : NodeId) : List NodeId :=
  match t.childByField id "body" with
  | some body => (t.children body).filter (isCallable t)
  | none => []

end TreeAudit.Java
