import TreeAudit.Query.Recall
import TreeAudit.Report.Basic
import TreeAudit.Rule.Definition

-- Rules that can be run on a tree. A rule gives the nodes that it finds, each with a message, and then
-- ends well, with a failure or by breaking off. Most rules are compiled queries; these have a use for the
-- memo of the tree, which all rules that run on it share.
namespace TreeAudit

inductive RuleFailure
  | query (f : Query.Failure)
  | other (message : String) (causes : List String)
deriving Repr, DecidableEq

namespace RuleFailure

def message : RuleFailure → String
  | query f => f.message
  | other message _ => message

def causes : RuleFailure → List String
  | query _ => []
  | other _ causes => causes

-- Whether the rule is at fault and not the file.
def isConfiguration : RuleFailure → Bool
  | query f => f.isConfiguration
  | other _ _ => false

end RuleFailure

inductive RuleEnding
  | done
  | failed (f : RuleFailure)
  | crashed (c : Crash)
deriving Repr, DecidableEq

structure Finding where
  node : NodeId
  message : String
deriving Repr, DecidableEq

structure Rule where
  id : String
  language : String
  severity : Severity
  apply : Language → Tree → List Finding × RuleEnding
  recalled : Language → Tree → StateM Memo (List Finding × RuleEnding) := fun l t => pure (apply l t)

-- The rule with an answer that it has given.
def Rule.answering (r : Rule) (answer : List Finding × RuleEnding) : Rule :=
  { r with apply := fun _ _ => answer }

def Rule.violation (r : Rule) (l : Language) (t : Tree) (f : Finding) : Violation where
  rule := r.id
  severity := r.severity
  message := f.message
  file := t.file
  span := t.span f.node
  scope := l.scope t f.node

structure QueryRule where
  id : String
  severity : Severity
  message : String
  query : PathQuery

namespace QueryRule

def language (r : QueryRule) : String := r.query.language

def apply (r : QueryRule) (l : Language) (t : Tree) : List Finding × RuleEnding :=
  match r.query.nodes t l with
  | .ok ids => (ids.map fun id => ⟨id, r.message⟩, .done)
  | .error f => ([], .failed (.query f))

def recalled (r : QueryRule) (l : Language) (t : Tree) : StateM Memo (List Finding × RuleEnding) := do
  match ← (r.query.recallNodes t l).run with
  | .ok ids => pure (ids.map fun id => ⟨id, r.message⟩, .done)
  | .error f => pure ([], .failed (.query f))

def toRule (r : QueryRule) : Rule := ⟨r.id, r.language, r.severity, r.apply, r.recalled⟩

end QueryRule

def RuleDefinition.compile (d : RuleDefinition) (l : Language) : Except Query.Failure QueryRule := do
  let query ← PathQuery.compile d.query l d.bindings
  pure ⟨d.id, d.severity, d.renderedMessage, query⟩

end TreeAudit
