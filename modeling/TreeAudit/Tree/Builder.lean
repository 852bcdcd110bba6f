import TreeAudit.Tree.Basic

-- Building a tree depth first: a node is opened, its tokens and children follow, and it is closed.
-- The builder keeps the first thing that went wrong and goes on; only finishing reports it.
namespace TreeAudit

inductive BuildProblem
  | secondRoot (kind : String)
  | closeWithoutOpen
  | strayToken (field : String)
deriving Repr, DecidableEq

inductive BuildFailure
  | problem (p : BuildProblem)
  | noRoot
  | leftOpen (count : Nat)
deriving Repr, DecidableEq

def BuildProblem.message : BuildProblem → String
  | .secondRoot kind => s!"second root node '{kind}'"
  | .closeWithoutOpen => "close() without an open node"
  | .strayToken field => s!"token '{field}' outside of a node"

def BuildFailure.message : BuildFailure → String
  | .problem p => p.message
  | .noRoot => "tree has no root"
  | .leftOpen count => s!"{count} node(s) left open"

inductive BuildStep
  | openNode (kind : String) (field : Option String) (span : Span)
  | leaf (kind : String) (field : Option String) (span : Span)
  | close
  | token (field text : String)
deriving Repr, DecidableEq

-- A tree under construction: its nodes so far, the open ones with the innermost first, and the
-- first problem met.
structure Builder where
  language : String
  file : String
  source : String
  nodes : Array Node
  opened : List NodeId
  problem : Option BuildProblem
deriving Repr, DecidableEq

namespace Builder

def start (language file source : String) : Builder := ⟨language, file, source, #[], [], none⟩

def report (b : Builder) (p : BuildProblem) : Builder :=
  { b with problem := some (b.problem.getD p) }

def openNode (b : Builder) (kind : String) (field : Option String) (span : Span) : Builder :=
  let id := b.nodes.size
  let parent := b.opened.head?
  let b := if parent.isNone && 0 < id then b.report (.secondRoot kind) else b
  let linked := match parent with
    | some p => b.nodes.modify p fun n => { n with children := n.children ++ [id] }
    | none => b.nodes
  let node : Node :=
    { kind, name := structuralName kind, field, span, parent, children := [], tokens := [] }
  { b with nodes := linked.push node, opened := id :: b.opened }

def close (b : Builder) : Builder :=
  match b.opened with
  | _ :: outer => { b with opened := outer }
  | [] => b.report .closeWithoutOpen

-- Adds a node without children.
def leaf (b : Builder) (kind : String) (field : Option String) (span : Span) : Builder :=
  (b.openNode kind field span).close

def token (b : Builder) (field text : String) : Builder :=
  match b.opened with
  | id :: _ =>
    { b with nodes := b.nodes.modify id fun n => { n with tokens := n.tokens ++ [⟨field, text⟩] } }
  | [] => b.report (.strayToken field)

def step (b : Builder) : BuildStep → Builder
  | .openNode kind field span => b.openNode kind field span
  | .leaf kind field span => b.leaf kind field span
  | .close => b.close
  | .token field text => b.token field text

def run (b : Builder) (steps : List BuildStep) : Builder := steps.foldl step b

def finish (b : Builder) : Except BuildFailure Tree :=
  match b.problem with
  | some p => .error (.problem p)
  | none =>
    if b.nodes.isEmpty then .error .noRoot
    else if b.opened.isEmpty then .ok ⟨b.language, b.file, b.source, b.nodes⟩
    else .error (.leftOpen b.opened.length)

end Builder

structure Outline where
  depth : Nat
  kind : String
  field : Option String
  span : Span
  tokens : List Token
deriving Repr, DecidableEq

namespace Builder

def closeTo (b : Builder) (depth : Nat) : Builder :=
  Nat.repeat close (b.opened.length - depth) b

def add (b : Builder) (o : Outline) : Builder :=
  o.tokens.foldl (fun b k => b.token k.field k.text)
    ((b.closeTo o.depth).openNode o.kind o.field o.span)

end Builder

def Tree.ofOutline (language file source : String) (outline : List Outline) :
    Except BuildFailure Tree :=
  ((outline.foldl Builder.add (Builder.start language file source)).closeTo 0).finish

inductive ParseFailure
  | unexpected (line column : Nat) (kind : String)
  | noGrammar (reason : String)
  | noTree
  | malformed (reason : String)
deriving Repr, DecidableEq

def ParseFailure.message : ParseFailure → String
  | .unexpected line column kind => s!"syntax error at line {line}, column {column} near '{kind}'"
  | .noGrammar reason => s!"grammar could not be loaded: {reason}"
  | .noTree => "parser produced no tree"
  | .malformed reason => s!"malformed tree: {reason}"

end TreeAudit
