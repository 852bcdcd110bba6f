import TreeAudit.Attribute
import TreeAudit.Query.CoreFunctions
import TreeAudit.Tree.Builder

-- Languages. A language says how its sources are parsed, which attributes and metrics its nodes have,
-- which functions it adds to queries, in which declarations a node stands, and how a node is shown.
namespace TreeAudit

-- How something broke off without an answer, with a text if it left one.
inductive Crash
  | withText (s : String)
  | withoutText
deriving Repr, DecidableEq

def Crash.message : Crash → String
  | .withText s => s
  | .withoutText => "unknown panic"

inductive Parsing
  | tree (t : Tree)
  | failed (f : ParseFailure)
  | crashed (c : Crash)
deriving Repr, DecidableEq

structure Scope where
  package : Option String := none
  className : Option String := none
  method : Option String := none
deriving Repr, DecidableEq, Inhabited

def Scope.isEmpty (s : Scope) : Bool :=
  s.package.isNone && s.className.isNone && s.method.isNone

inductive Icon
  | field
  | type
  | method
  | constructor
  | variable
  | other
deriving Repr, DecidableEq

def Icon.name : Icon → String
  | .field => "field"
  | .type => "class"
  | .method => "method"
  | .constructor => "constructor"
  | .variable => "variable"
  | .other => "other"

-- Everything that analysis needs to know about one language. A parser takes the source and the
-- name of its file; `patterns` reads the patterns in queries.
structure Language where
  id : String
  displayName : String
  extensions : List String
  parser : Except ParseFailure (String → String → Parsing)
  attributes : Tree → NodeId → List Attribute := fun _ _ => []
  metrics : List Metric := []
  functions : List Query.QueryFunction := []
  patterns : Query.PatternReader := .standard
  scope : Tree → NodeId → Scope := fun _ _ => {}
  mainAttribute : Tree → NodeId → Option String := fun _ _ => none
  icon : Tree → NodeId → Icon := fun _ _ => .other
  details : Tree → NodeId → List String := fun _ _ => []

namespace Language

def tag (l : Language) : String := s!"LanguageHandler({l.id})"

def attributesOf (l : Language) (t : Tree) (id : NodeId) : List Attribute :=
  Attribute.all l.attributes t id

def attributeNamed? (l : Language) (t : Tree) (id : NodeId) (name : String) : Option Atom :=
  Attribute.find? l.attributes t id name

def label? (l : Language) (t : Tree) (id : NodeId) : Option Atom :=
  ((l.mainAttribute t id).bind (l.attributeNamed? t id)).or (l.attributeNamed? t id "Image")

-- The language with patterns read in another way.
def reading (l : Language) (read : Query.PatternReader) : Language := { l with patterns := read }

def handlesExtension (l : Language) (extension : String) : Bool :=
  l.extensions.any (Text.equalIgnoringCase · extension)

-- The value of the metric with a key, by way of the memo. An unknown key and a missing option are
-- mistakes of the caller; a metric that does not apply has no value.
def metricNamed (l : Language) (t : Tree) (key : String) (o : MetricOptions) (id : NodeId) :
    StateM Memo (Except Query.Failure (Option Float)) :=
  match Metric.withKey? l.metrics key with
  | none => pure (.error (.badArgument (.unknownMetric key)))
  | some m =>
    match m.missingOption? o with
    | some option => pure (.error (.badArgument (.missingOption m.key option)))
    | none => do
      let value ← m.computeMemoized t o id
      pure (.ok value)

-- The parts of a name before and after its first colon.
def splitName (name : List Char) : Option (List Char × List Char) :=
  match name.dropWhile (· ≠ ':') with
  | _ :: after => some (name.takeWhile (· ≠ ':'), after)
  | [] => none

-- The function that a name stands for. Without a colon the functions of the language come before
-- those of all languages; before a colon stands `fn` for the latter or the language for the former.
def function? (l : Language) (name : String) : Option Query.QueryFunction :=
  let find (fs : List Query.QueryFunction) (n : String) := fs.find? (·.name = n)
  let core := Query.coreFunctions l.patterns
  match splitName name.toList with
  | some (before, after) =>
    let (before, after) := (String.ofList before, String.ofList after)
    if before = "fn" then find core after
    else if before = l.id then find l.functions after
    else none
  | none => (find l.functions name).or (find core name)

end Language

end TreeAudit
