import TreeAudit.Text.Escape
import TreeAudit.Tree.Span
import TreeAudit.Unicode.CaseMap

-- Syntax trees. All nodes of one file stand in one array in document order, the root first; a node is
-- named by its index. Each node knows its parent and its children, so the relations between nodes are
-- read off the array.
namespace TreeAudit

abbrev NodeId := Nat

-- A token without a node of its own, under the grammar field it stands in.
structure Token where
  field : String
  text : String
deriving Repr, DecidableEq, Inhabited

-- One node: its grammar kind, the structural name that queries use, the grammar field that it
-- fills in its parent, and its links.
structure Node where
  kind : String
  name : String
  field : Option String
  span : Span
  parent : Option NodeId
  children : List NodeId
  tokens : List Token
deriving Repr, DecidableEq, Inhabited

structure Tree where
  language : String
  file : String
  source : String
  nodes : Array Node
deriving Repr, DecidableEq, Inhabited

-- The characters of a kind with the first of each part in upper case and the underscores
-- dropped.
def camelCase (startsPart : Bool) : List Char → List Char
  | [] => []
  | c :: cs =>
    if c = '_' then camelCase true cs
    else if startsPart then Unicode.upperOf c ++ camelCase false cs
    else c :: camelCase false cs

def structuralName (kind : String) : String := String.ofList (camelCase true kind.toList)

namespace Tree

def root : NodeId := 0

def size (t : Tree) : Nat := t.nodes.size

-- The record of a node; an index outside the tree has an empty one.
def node (t : Tree) (id : NodeId) : Node := t.nodes.getD id default

def kind (t : Tree) (id : NodeId) : String := (t.node id).kind
def name (t : Tree) (id : NodeId) : String := (t.node id).name
def field (t : Tree) (id : NodeId) : Option String := (t.node id).field
def span (t : Tree) (id : NodeId) : Span := (t.node id).span
def parent (t : Tree) (id : NodeId) : Option NodeId := (t.node id).parent
def children (t : Tree) (id : NodeId) : List NodeId := (t.node id).children
def tokens (t : Tree) (id : NodeId) : List Token := (t.node id).tokens

def isRoot (t : Tree) (id : NodeId) : Bool := (t.parent id).isNone
def isLeaf (t : Tree) (id : NodeId) : Bool := (t.children id).isEmpty
def childCount (t : Tree) (id : NodeId) : Nat := (t.children id).length

-- The source text that a node covers; a span that names no part of the source covers nothing.
def text (t : Tree) (id : NodeId) : String :=
  (Text.slice? t.source (t.span id).startByte (t.span id).endByte).getD ""

def childByField (t : Tree) (id : NodeId) (field : String) : Option NodeId :=
  (t.children id).find? fun c => t.field c = some field

def childrenByField (t : Tree) (id : NodeId) (field : String) : List NodeId :=
  (t.children id).filter fun c => t.field c = some field

def childOfKind (t : Tree) (id : NodeId) (kind : String) : Option NodeId :=
  (t.children id).find? fun c => t.kind c = kind

def tokensByField (t : Tree) (id : NodeId) (field : String) : List String :=
  ((t.tokens id).filter (·.field = field)).map (·.text)

def token (t : Tree) (id : NodeId) (field : String) : Option String :=
  (t.tokensByField id field).head?

def indexInParent (t : Tree) (id : NodeId) : Nat :=
  match t.parent id with
  | some p => ((t.children p).findIdx? (· = id)).getD 0
  | none => 0

def label (t : Tree) (id : NodeId) : String := s!"{t.name id}#{id}@{(t.span id).place}"

def summary (t : Tree) : String :=
  s!"Tree \x7b language: {Text.quoted t.language}, file_id: {Text.quoted t.file}, " ++
    s!"nodes: {t.size} \x7d"

end Tree

end TreeAudit
