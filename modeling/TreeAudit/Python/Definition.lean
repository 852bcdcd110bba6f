import TreeAudit.Tree.Walk

-- Definitions in Python trees: functions, classes, their names, members and decorators.
namespace TreeAudit.Python

def isFunction (t : Tree) (id : NodeId) : Bool := t.kind id = "function_definition"
def isClass (t : Tree) (id : NodeId) : Bool := t.kind id = "class_definition"
def isDecorated (t : Tree) (id : NodeId) : Bool := t.kind id = "decorated_definition"

def declaredName (t : Tree) (id : NodeId) : Option String := (t.childByField id "name").map t.text

-- A definition without its decorators.
def undecorated (t : Tree) (id : NodeId) : NodeId :=
  if isDecorated t id then (t.childByField id "definition").getD id else id

-- What stands in the body of a class, without decorators.
def classMembers (t : Tree) (id : NodeId) : List NodeId :=
  match t.childByField id "body" with
  | some body => (t.children body).map (undecorated t)
  | none => []

def enclosing (t : Tree) (id : NodeId) : Option NodeId :=
  (t.parent id).bind fun p => if isDecorated t p then t.parent p else some p

def owningClass (t : Tree) (id : NodeId) : Option NodeId :=
  ((enclosing t id).bind t.parent).filter (isClass t)

-- The dotted name of a decorator, without the arguments of a call.
def decoratorName (t : Tree) (id : NodeId) : Option String :=
  (t.children id).head?.bind fun e =>
    if t.kind e = "call" then (t.childByField e "function").map t.text else some (t.text e)

def decorators (t : Tree) (id : NodeId) : List String :=
  match (t.parent id).filter (isDecorated t) with
  | some p => ((t.children p).filter fun c => t.kind c = "decorator").filterMap (decoratorName t)
  | none => []

-- Whether a decorator is the wanted one. A name without dots is compared with the last part.
def decoratorMatches (written wanted : String) : Bool :=
  written = wanted ||
    (!wanted.toList.contains '.' &&
      (written.toList.reverse.takeWhile (· ≠ '.')).reverse = wanted.toList)

end TreeAudit.Python
