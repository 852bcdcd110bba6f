import TreeAudit.Language
import TreeAudit.Python.Attributes
import TreeAudit.Python.Metrics

-- Python as a language of analysis: its functions, the declarations around a node, and how nodes are
-- shown.
namespace TreeAudit.Python

open Query

def decoratorTest (r : ArgumentReader := .lenient) : QueryFunction where
  name := "hasDecorator"
  parameters := [.one .string]
  result := .one .boolean
  needsFocus := true
  call := fun c args => do
    let id ← c.focusNode
    let wanted ← r.text args 0
    pure (Value.truth ((decorators c.tree id).any (decoratorMatches · wanted)))
  check := none

def className (t : Tree) (id : NodeId) : Option String :=
  let names := (((id :: t.ancestors id).filter (isClass t)).filterMap (declaredName t)).reverse
  if names.isEmpty then none else some (".".intercalate names)

def methodName (t : Tree) (id : NodeId) : Option String :=
  (((id :: t.ancestors id).takeWhile fun n => !isClass t n).find? (isFunction t)).bind
    (declaredName t)

def scope (t : Tree) (id : NodeId) : Scope := ⟨none, className t id, methodName t id⟩

def mainAttribute (t : Tree) (id : NodeId) : Option String :=
  if isFunction t id || isClass t id then some "Name" else none

-- The icon of a node: initialisers of classes are constructors, statements in the body of a class
-- are fields.
def icon (t : Tree) (id : NodeId) : Icon :=
  let owned := (owningClass t id).isSome
  if isClass t id then .type
  else if isFunction t id then
    if owned && declaredName t id = some "__init__" then .constructor else .method
  else if t.kind id = "expression_statement" && owned then .field
  else .other

-- The tree of a source without text: a root alone. Text needs a grammar.
def parse (source file : String) : Parsing :=
  if source.isEmpty then
    match Tree.ofOutline "python" file source [⟨0, "module", none, ⟨0, 0, 1, 1, 1, 1⟩, []⟩] with
    | .ok t => .tree t
    | .error e => .failed (.malformed e.message)
  else .failed (.noGrammar "no grammar for Python text")

def language : Language where
  id := "python"
  displayName := "Python"
  extensions := ["py", "pyi"]
  parser := .ok parse
  attributes := attributes.apply
  metrics := metrics
  functions := [decoratorTest]
  scope := scope
  mainAttribute := mainAttribute
  icon := icon

end TreeAudit.Python
