import TreeAudit.Query.Comparison
import TreeAudit.Query.Signature

-- Expressions. A path is a list of steps from an origin; each step goes along an axis, keeps the nodes
-- that pass its test and filters them by its predicates.
namespace TreeAudit.Query

inductive Axis
  | child
  | descendant
  | descendantOrSelf
  | parent
  | ancestor
  | ancestorOrSelf
  | self
  | followingSibling
  | precedingSibling
  | attributes
deriving Repr, DecidableEq

namespace Axis

def names : List (String × Axis) := [
  ("child", .child), ("descendant", .descendant), ("descendant-or-self", .descendantOrSelf),
  ("parent", .parent), ("ancestor", .ancestor), ("ancestor-or-self", .ancestorOrSelf),
  ("self", .self), ("following-sibling", .followingSibling),
  ("preceding-sibling", .precedingSibling), ("attribute", .attributes)]

def ofName? (name : String) : Option Axis := names.lookup name

def name : Axis → String
  | child => "child"
  | descendant => "descendant"
  | descendantOrSelf => "descendant-or-self"
  | parent => "parent"
  | ancestor => "ancestor"
  | ancestorOrSelf => "ancestor-or-self"
  | self => "self"
  | followingSibling => "following-sibling"
  | precedingSibling => "preceding-sibling"
  | attributes => "attribute"

theorem ofName?_name (a : Axis) : ofName? a.name = some a := by cases a <;> decide

end Axis

inductive NodeTest
  | any
  | name (s : String)
deriving Repr, DecidableEq

def NodeTest.accepts (test : NodeTest) (name : String) : Bool :=
  match test with
  | .any => true
  | .name s => s = name

inductive Operation
  | add
  | subtract
  | multiply
  | divide
  | modulo
deriving Repr, DecidableEq

def Operation.apply : Operation → Float → Float → Float
  | .add, x, y => x + y
  | .subtract, x, y => x - y
  | .multiply, x, y => x * y
  | .divide, x, y => x / y
  | .modulo, x, y => Decimal.remainder x y

mutual

inductive Expr
  | const (v : Value)
  | focus
  | or (l r : Expr)
  | and (l r : Expr)
  | compare (op : Comparison) (l r : Expr)
  | arith (op : Operation) (l r : Expr)
  | neg (e : Expr)
  | union (l r : Expr)
  | filter (e : Expr) (predicates : List Expr)
  | path (origin : Origin) (steps : List Step)
  | call (f : QueryFunction) (args : List Expr)

inductive Origin
  | document
  | focus
  | value (e : Expr)

inductive Step
  | mk (axis : Axis) (test : NodeTest) (predicates : List Expr)

end

namespace Step

def axis : Step → Axis
  | mk a _ _ => a

def test : Step → NodeTest
  | mk _ t _ => t

def predicates : Step → List Expr
  | mk _ _ ps => ps

def downward : Step := mk .descendantOrSelf .any []

end Step

def Expr.literal? : Expr → Option Item
  | .const v => v.single?
  | _ => none

end TreeAudit.Query
