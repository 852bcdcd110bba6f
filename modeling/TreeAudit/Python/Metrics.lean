import TreeAudit.Metric
import TreeAudit.Python.Definition

-- Metrics of Python definitions: cyclomatic complexity, lines and number of methods. Counting stops at
-- nested definitions, which have metrics of their own.
namespace TreeAudit.Python

def ignoreBooleanPaths : String := "ignoreBooleanPaths"

def barriers : List String := ["function_definition", "class_definition"]

def branchKinds : List String := [
  "if_statement", "elif_clause", "for_statement", "while_statement", "except_clause",
  "conditional_expression", "for_in_clause", "if_clause", "case_clause"]

-- Whether a node is a decision. Boolean operators are, unless their paths are to be ignored.
def isDecision (t : Tree) (o : MetricOptions) (id : NodeId) : Bool :=
  branchKinds.contains (t.kind id) ||
    (t.kind id = "boolean_operator" && !o.contains ignoreBooleanPaths)

def cyclomatic (t : Tree) (o : MetricOptions) (id : NodeId) : Nat :=
  1 + t.countBelow id barriers (isDecision t o)

def methodCount (t : Tree) (id : NodeId) : Nat := (classMembers t id).countP (isFunction t)

def cyclo : Metric where
  key := "CYCLO"
  description := "Cyclomatic complexity of a function"
  applies := isFunction
  measure := fun t o id => pure (Float.ofNat (cyclomatic t o id))
  options := [ignoreBooleanPaths]
  required := []

def loc : Metric where
  key := "LOC"
  description := "Lines of code spanned by the node"
  applies := fun _ _ => true
  measure := fun t _ id => pure (Float.ofNat (t.span id).lineCount)
  options := []
  required := []

def nom : Metric where
  key := "NOM"
  description := "Number of methods declared by a class"
  applies := isClass
  measure := fun t _ id => pure (Float.ofNat (methodCount t id))
  options := []
  required := []

def metrics : List Metric := [cyclo, loc, nom]

end TreeAudit.Python
