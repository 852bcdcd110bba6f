import TreeAudit.Query.Evaluate
import TreeAudit.Query.Grammar

-- Queries: compiled once for a language, evaluated over trees of that language from the document.
namespace TreeAudit

open Query in
structure PathQuery where
  source : String
  language : String
  expr : Expr

namespace PathQuery

open Query

def compile (source : String) (language : Language) (bindings : List (String × Value)) :
    Except Failure PathQuery := do
  let tokens ← tokenize source
  let expr ← parse ⟨language, bindings⟩ tokens
  pure ⟨source, language.id, expr⟩

def value (q : PathQuery) (t : Tree) (language : Language) : Except Failure Value :=
  if t.language ≠ q.language ∨ language.id ≠ q.language then
    .error (.evaluation (.foreignTree q.language t.language))
  else q.expr.eval ⟨t, language⟩ Context.document

def nodes (q : PathQuery) (t : Tree) (language : Language) : Except Failure (List NodeId) := do
  let v ← q.value t language
  pure ((Value.nodeIds v).filter (· < t.size))

end PathQuery

end TreeAudit
