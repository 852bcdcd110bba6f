import TreeAudit.Query.Grammar

-- Printing. An expression is written down with every step in its long form, and with parentheses only
-- where it binds weaker than its place asks for.
namespace TreeAudit.Query

def Level.rank : Level → Nat
  | .disjunction => 0
  | .conjunction => 1
  | .comparison => 2
  | .sum => 3
  | .product => 4
  | .sign => 5
  | .union => 6
  | .path => 7

def Operation.level : Operation → Level
  | .add | .subtract => .sum
  | .multiply | .divide | .modulo => .product

def Operation.symbol : Operation → Symbol
  | .add => .plus
  | .subtract => .minus
  | .multiply => .star
  | .divide => .name "div"
  | .modulo => .name "mod"

def Comparison.symbol : Comparison → Symbol
  | .equal => .equal
  | .notEqual => .notEqual
  | .less => .less
  | .lessEqual => .lessEqual
  | .greater => .greater
  | .greaterEqual => .greaterEqual

def NodeTest.symbol : NodeTest → Symbol
  | .any => .star
  | .name n => .name n

namespace Expr

def level : Expr → Level
  | .or _ _ => .disjunction
  | .and _ _ => .conjunction
  | .compare _ _ _ => .comparison
  | .arith op _ _ => op.level
  | .neg _ => .sign
  | .union _ _ => .union
  | _ => .path

-- Among what stands at the level of paths, a filter can be the start of a path, and only what is neither
-- can be filtered.
def rank : Expr → Nat
  | .filter _ _ => 8
  | .const _ => 9
  | .call _ _ => 9
  | e => e.level.rank

def enclosed (needed : Nat) (e : Expr) (shown : List Symbol) : List Symbol :=
  if e.rank < needed then .leftParen :: (shown ++ [.rightParen]) else shown

end Expr

theorem Level.rank_next {level : Level} (inner : level ≠ .path) : level.next.rank = level.rank + 1 := by
  cases level with
  | path => exact absurd rfl inner
  | _ => rfl

theorem Level.rank_path (level : Level) : level.rank ≤ Level.path.rank := by
  cases level <;> decide

theorem Level.climb {motive : Level → Prop} (top : motive .path)
    (step : ∀ level, level ≠ .path → motive level.next → motive level) (level : Level) : motive level := by
  have union := step .union (by decide) top
  have sign := step .sign (by decide) union
  have product := step .product (by decide) sign
  have sum := step .sum (by decide) product
  have comparison := step .comparison (by decide) sum
  have conjunction := step .conjunction (by decide) comparison
  cases level with
  | disjunction => exact step .disjunction (by decide) conjunction
  | _ => assumption

theorem Expr.rank_level (e : Expr) : e.rank = e.level.rank ∨ e.level = .path ∧ 8 ≤ e.rank ∧ e.rank ≤ 9 := by
  cases e with
  | const | call => exact .inr ⟨rfl,Nat.le_succ 8,Nat.le_refl 9⟩
  | filter => exact .inr ⟨rfl,Nat.le_refl 8,Nat.le_succ 8⟩
  | _ => exact .inl rfl

def Value.print : Value → List Symbol
  | [.text s] => [.string s]
  | [.number x] => [.number x]
  | _ => [.leftParen,.rightParen]

mutual

def Expr.print : Expr → List Symbol
  | .const v => v.print
  | .focus => [.dot]
  | .or l r =>
    l.enclosed Level.disjunction.rank l.print ++ .name "or" :: r.enclosed Level.conjunction.rank r.print
  | .and l r =>
    l.enclosed Level.conjunction.rank l.print ++ .name "and" :: r.enclosed Level.comparison.rank r.print
  | .compare op l r =>
    l.enclosed Level.sum.rank l.print ++ op.symbol :: r.enclosed Level.sum.rank r.print
  | .arith op l r =>
    l.enclosed op.level.rank l.print ++ op.symbol :: r.enclosed op.level.next.rank r.print
  | .neg e => .minus :: e.enclosed Level.sign.rank e.print
  | .union l r => l.enclosed Level.union.rank l.print ++ .bar :: r.enclosed Level.path.rank r.print
  | .filter e predicates => e.enclosed 9 e.print ++ printPredicates predicates
  | .path origin steps => origin.print (printSteps steps)
  | .call f args => .name f.name :: .leftParen :: (printArguments args ++ [.rightParen])

-- The first step stands behind a slash, except in a path from the focus.
def Origin.print : Origin → List Symbol → List Symbol
  | .document, steps => steps
  | .focus, steps => steps.tail
  | .value e, steps => e.enclosed 8 e.print ++ steps

def printSteps : List Step → List Symbol
  | [] => []
  | s :: steps => .slash :: (s.print ++ printSteps steps)

def Step.print : Step → List Symbol
  | .mk axis test predicates =>
    .name axis.name :: .doubleColon :: test.symbol :: printPredicates predicates

def printPredicates : List Expr → List Symbol
  | [] => []
  | p :: predicates => .leftBracket :: (p.print ++ .rightBracket :: printPredicates predicates)

def printArguments : List Expr → List Symbol
  | [] => []
  | a :: args => a.print ++ printFurther args

def printFurther : List Expr → List Symbol
  | [] => []
  | a :: args => .comma :: (a.print ++ printFurther args)

end

example : (Expr.and (.const (Value.text "a")) (.or (.const (Value.text "b")) .focus)).print =
    [.string "a",.name "and",.leftParen,.string "b",.name "or",.dot,.rightParen] := by decide

end TreeAudit.Query
