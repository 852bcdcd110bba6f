import TreeAudit.Java.Declaration
import TreeAudit.Metric

-- Metrics of Java declarations: cyclomatic complexity, statements, lines, and the sums over the
-- operations of a type. Counting stops at the bodies of nested types, which have metrics of their own.
namespace TreeAudit.Java

def ignoreBooleanPaths : String := "ignoreBooleanPaths"
def considerAssert : String := "considerAssert"

def barriers : List String := ["class_body", "interface_body", "enum_body", "annotation_type_body"]

def statementKinds : List String := [
  "local_variable_declaration", "expression_statement", "if_statement", "for_statement",
  "enhanced_for_statement", "while_statement", "do_statement", "return_statement",
  "break_statement", "continue_statement", "throw_statement", "try_statement",
  "try_with_resources_statement", "catch_clause", "finally_clause", "switch_expression",
  "switch_label", "synchronized_statement", "assert_statement", "labeled_statement",
  "yield_statement", "explicit_constructor_invocation", "field_declaration",
  "method_declaration", "constructor_declaration", "compact_constructor_declaration",
  "class_declaration", "interface_declaration", "enum_declaration", "record_declaration",
  "annotation_type_declaration", "static_initializer"]

def branchKinds : List String := [
  "if_statement", "for_statement", "enhanced_for_statement", "while_statement", "do_statement",
  "catch_clause", "ternary_expression"]

def isBooleanOperator (t : Tree) (id : NodeId) : Bool :=
  t.kind id = "binary_expression" &&
    (t.token id "operator" = some "&&" || t.token id "operator" = some "||")

def inAssertion (t : Tree) (id : NodeId) : Bool :=
  ((t.ancestors id).takeWhile fun a => !isCallable t a).any fun a => t.kind a = "assert_statement"

-- Whether a node is a decision. A default label is none; assertions and the operators in them are
-- decisions only if they are to be considered, and operators only if their paths are not to be
-- ignored.
def isDecision (t : Tree) (o : MetricOptions) (id : NodeId) : Bool :=
  let kind := t.kind id
  branchKinds.contains kind ||
    (kind = "switch_label" && !"default".toList.isPrefixOf (t.text id).toList) ||
    (kind = "assert_statement" && o.contains considerAssert) ||
    (isBooleanOperator t id && !o.contains ignoreBooleanPaths &&
      (o.contains considerAssert || !inAssertion t id))

def cyclomatic (t : Tree) (o : MetricOptions) (id : NodeId) : Nat :=
  1 + t.countBelow id barriers (isDecision t o)

-- One more than the number of statements; those of nested types belong to the type.
def statements (t : Tree) (id : NodeId) : Nat :=
  1 + t.countBelow id (if isType t id then [] else barriers) fun n =>
    statementKinds.contains (t.kind n)

def methodCount (t : Tree) (id : NodeId) : Nat :=
  (operations t id).countP fun m => t.kind m = "method_declaration"

def cyclo : Metric where
  key := "CYCLO"
  description := "Cyclomatic complexity of a method or constructor"
  applies := isCallable
  measure := fun t o id => pure (Float.ofNat (cyclomatic t o id))
  options := [ignoreBooleanPaths, considerAssert]
  required := []

def ncss : Metric where
  key := "NCSS"
  description := "Non-commenting source statements"
  applies := fun t id => isCallable t id || isType t id
  measure := fun t _ id => pure (Float.ofNat (statements t id))
  options := []
  required := []

def loc : Metric where
  key := "LOC"
  description := "Lines of code spanned by the node"
  applies := fun _ _ => true
  measure := fun t _ id => pure (Float.ofNat (t.span id).lineCount)
  options := []
  required := []

-- The sum of numbers; the empty sum is the negative zero, which changes no other sum.
def sum (xs : List Float) : Float := xs.foldl (· + ·) (-0.0)

def wmc : Metric where
  key := "WMC"
  description := "Weighted method count: sum of the CYCLO of a type's operations"
  applies := isType
  measure := fun t o id => do
    let values ← (operations t id).mapM (cyclo.computeMemoized t o)
    pure (sum (values.filterMap fun v => v))
  options := [ignoreBooleanPaths, considerAssert]
  required := []

def nom : Metric where
  key := "NOM"
  description := "Number of methods declared by a type"
  applies := isType
  measure := fun t _ id => pure (Float.ofNat (methodCount t id))
  options := []
  required := []

def metrics : List Metric := [cyclo, ncss, loc, wmc, nom]

end TreeAudit.Java
