import TreeAudit.Language
import TreeAudit.Query.Expr
import TreeAudit.Query.Lexeme

-- From symbols to expressions. Binary operators have levels, of which a lower one binds weaker: `or`,
-- `and`, comparison, addition, multiplication, negation, union and paths. Each level but comparison
-- groups to the left. Functions are looked up and variables are filled in while reading, so that an
-- expression has no open names.
--
-- Reading goes down by an allowance for depth; every symbol pays for the levels that it can open, so
-- the allowance of `parse` is never used up.
namespace TreeAudit.Query

structure Vocabulary where
  language : Language
  bindings : List (String × Value)

-- The symbol at the front. After the last token there is only the end.
def front : List Token → Symbol
  | [] => .finish
  | t :: _ => t.symbol

def second : List Token → Symbol
  | [] => .finish
  | [t] => t.symbol
  | _ :: t :: _ => t.symbol

-- Goes past the front; the last token is never passed.
def advance : List Token → List Token
  | [] => []
  | [t] => [t]
  | _ :: ts => ts

def failAt (ts : List Token) (p : SyntaxProblem) : Except Failure α :=
  .error (.badSyntax ((ts.head?.map (·.offset)).getD 0) p)

def expect (symbol : Symbol) (what : Expectation) (ts : List Token) : Except Failure (List Token) :=
  if front ts = symbol then .ok (advance ts) else failAt ts (.expected what (front ts))

inductive Level
  | disjunction
  | conjunction
  | comparison
  | sum
  | product
  | sign
  | union
  | path
deriving Repr, DecidableEq

def Level.next : Level → Level
  | disjunction => conjunction
  | conjunction => comparison
  | comparison => sum
  | sum => product
  | product => sign
  | sign => union
  | union => path
  | path => path

def Level.operator? (l : Level) (symbol : Symbol) : Option (Expr → Expr → Expr) :=
  match l, symbol with
  | .disjunction, .name "or" => some .or
  | .conjunction, .name "and" => some .and
  | .comparison, .equal => some (.compare .equal)
  | .comparison, .notEqual => some (.compare .notEqual)
  | .comparison, .less => some (.compare .less)
  | .comparison, .lessEqual => some (.compare .lessEqual)
  | .comparison, .greater => some (.compare .greater)
  | .comparison, .greaterEqual => some (.compare .greaterEqual)
  | .sum, .plus => some (.arith .add)
  | .sum, .minus => some (.arith .subtract)
  | .product, .star => some (.arith .multiply)
  | .product, .name "div" => some (.arith .divide)
  | .product, .name "mod" => some (.arith .modulo)
  | .union, .bar => some .union
  | _, _ => none

def startsStep (ts : List Token) : Bool :=
  match front ts with
  | .dot | .dotDot | .at | .star | .name _ => true
  | _ => false

-- Whether a string, number, variable, parenthesis or call starts at the front. The names of axes and
-- `node` call nothing.
def startsPrimary (ts : List Token) : Bool :=
  match front ts with
  | .string _ | .number _ | .dollar | .leftParen => true
  | .name n => second ts = .leftParen && (Axis.ofName? n).isNone && n ≠ "node"
  | _ => false

def continuesPath : Symbol → Bool
  | .slash | .doubleSlash | .leftBracket => true
  | _ => false

-- The steps that a step after a double slash stands for. A child step without predicates is a
-- descendant step; any other step starts from all nodes below, so that its predicates count among the
-- children of each.
def descendantSteps (s : Step) : List Step :=
  if s.axis = .child && s.predicates.isEmpty then [.mk .descendant s.test []]
  else [Step.downward, s]

def readTest (ts : List Token) : Except Failure (NodeTest × List Token) :=
  let rest := advance ts
  match front ts with
  | .star => .ok (.any, rest)
  | .name n =>
    if n = "node" && front rest = .leftParen then do
      let rest ← expect .rightParen .rightParen (advance rest)
      pure (.any, rest)
    else .ok (.name n, rest)
  | other => failAt rest (.expected .nameTest other)

def readAxisTest (ts : List Token) : Except Failure (Axis × NodeTest × List Token) :=
  match front ts with
  | .dot => .ok (.self, .any, advance ts)
  | .dotDot => .ok (.parent, .any, advance ts)
  | .at => do
    let (test, rest) ← readTest (advance ts)
    pure (.attributes, test, rest)
  | .name n =>
    if second ts = .doubleColon then
      match Axis.ofName? n with
      | some axis => do
        let (test, rest) ← readTest (advance (advance ts))
        pure (axis, test, rest)
      | none => failAt ts (.unknownAxis n)
    else do
      let (test, rest) ← readTest ts
      pure (.child, test, rest)
  | _ => do
    let (test, rest) ← readTest ts
    pure (.child, test, rest)

-- The call of a function by name. The number of arguments has to be that of the parameters, and
-- literal arguments have to pass the check of the function.
def Vocabulary.call (v : Vocabulary) (name : String) (args : List Expr) : Except Failure Expr :=
  match v.language.function? name with
  | none => .error (.unknownFunction name)
  | some f =>
    if f.parameters.length ≠ args.length then
      .error (.arity name f.parameters.length args.length)
    else match f.check with
      | some check => do
        check (args.map Expr.literal?) v.language.metrics
        pure (.call f args)
      | none => .ok (.call f args)

def Vocabulary.variable (v : Vocabulary) (name : String) : Except Failure Expr :=
  match v.bindings.lookup name with
  | some value => .ok (.const value)
  | none => .error (.unknownVariable name)

def filtered (e : Expr) (predicates : List Expr) : Expr :=
  if predicates.isEmpty then e else .filter e predicates

def continued (e : Expr) (steps : List Step) : Expr :=
  if steps.isEmpty then e else .path (.value e) steps

mutual

def readLevel (v : Vocabulary) : Nat → Level → List Token → Except Failure (Expr × List Token)
  | 0, _, ts => failAt ts .tooDeep
  | n + 1, .path, ts => readPath v n ts
  | n + 1, .sign, ts =>
    if front ts = .minus then do
      let (e, rest) ← readLevel v n .sign (advance ts)
      pure (.neg e, rest)
    else readLevel v n .union ts
  | n + 1, level, ts => do
    let (left, rest) ← readLevel v n level.next ts
    readOperators v n level left rest

-- Reads the operators of a level that follow an operand, with their right operands. At most one
-- comparison can follow.
def readOperators (v : Vocabulary) : Nat → Level → Expr → List Token →
    Except Failure (Expr × List Token)
  | 0, _, _, ts => failAt ts .tooDeep
  | n + 1, level, left, ts =>
    match level.operator? (front ts) with
    | none => .ok (left, ts)
    | some combine => do
      let (right, rest) ← readLevel v n level.next (advance ts)
      if level = .comparison then pure (combine left right, rest)
      else readOperators v n level (combine left right) rest

def readPath (v : Vocabulary) : Nat → List Token → Except Failure (Expr × List Token)
  | 0, ts => failAt ts .tooDeep
  | n + 1, ts =>
    if front ts = .slash then
      if startsStep (advance ts) then do
        let (step, rest) ← readStep v n (advance ts)
        let (steps, rest) ← readSteps v n rest
        pure (.path .document (step :: steps), rest)
      else failAt (advance ts) .bareSlash
    else if front ts = .doubleSlash then
      if startsStep (advance ts) then do
        let (step, rest) ← readStep v n (advance ts)
        let (steps, rest) ← readSteps v n rest
        pure (.path .document (descendantSteps step ++ steps), rest)
      else failAt (advance ts) .missingStep
    else if startsPrimary ts then do
      let (e, rest) ← readPrimary v n ts
      let (predicates, rest) ← readPredicates v n rest
      let (steps, rest) ← readSteps v n rest
      pure (continued (filtered e predicates) steps, rest)
    else if startsStep ts then
      if front ts = .dot && !continuesPath (second ts) then .ok (.focus, advance ts)
      else do
        let (step, rest) ← readStep v n ts
        let (steps, rest) ← readSteps v n rest
        pure (.path .focus (step :: steps), rest)
    else failAt ts (.expected .expression (front ts))

def readSteps (v : Vocabulary) : Nat → List Token → Except Failure (List Step × List Token)
  | 0, ts => failAt ts .tooDeep
  | n + 1, ts =>
    if front ts = .slash then do
      let (step, rest) ← readStep v n (advance ts)
      let (steps, rest) ← readSteps v n rest
      pure (step :: steps, rest)
    else if front ts = .doubleSlash then
      if startsStep (advance ts) then do
        let (step, rest) ← readStep v n (advance ts)
        let (steps, rest) ← readSteps v n rest
        pure (descendantSteps step ++ steps, rest)
      else failAt (advance ts) .missingStep
    else .ok ([], ts)

def readStep (v : Vocabulary) : Nat → List Token → Except Failure (Step × List Token)
  | 0, ts => failAt ts .tooDeep
  | n + 1, ts => do
    let (axis, test, rest) ← readAxisTest ts
    let (predicates, rest) ← readPredicates v n rest
    pure (.mk axis test predicates, rest)

def readPredicates (v : Vocabulary) : Nat → List Token → Except Failure (List Expr × List Token)
  | 0, ts => failAt ts .tooDeep
  | n + 1, ts =>
    if front ts = .leftBracket then do
      let (e, rest) ← readLevel v n .disjunction (advance ts)
      let rest ← expect .rightBracket .rightBracket rest
      let (es, rest) ← readPredicates v n rest
      pure (e :: es, rest)
    else .ok ([], ts)

def readPrimary (v : Vocabulary) : Nat → List Token → Except Failure (Expr × List Token)
  | 0, ts => failAt ts .tooDeep
  | n + 1, ts =>
    let rest := advance ts
    match front ts with
    | .string s => .ok (.const (Value.text s), rest)
    | .number x => .ok (.const (Value.number x), rest)
    | .dollar =>
      match front rest with
      | .name name => do pure (← v.variable name, advance rest)
      | other => failAt (advance rest) (.expected .variableName other)
    | .leftParen =>
      if front rest = .rightParen then .ok (.const [], advance rest)
      else do
        let (e, rest) ← readLevel v n .disjunction rest
        let rest ← expect .rightParen .rightParen rest
        pure (e, rest)
    | .name name => do
      let rest ← expect .leftParen .leftParen rest
      let (args, rest) ← readArguments v n rest
      pure (← v.call name args, rest)
    | other => failAt rest (.unexpected other)

def readArguments (v : Vocabulary) : Nat → List Token → Except Failure (List Expr × List Token)
  | 0, ts => failAt ts .tooDeep
  | n + 1, ts =>
    if front ts = .rightParen then .ok ([], advance ts) else readArgumentList v n ts

def readArgumentList (v : Vocabulary) : Nat → List Token → Except Failure (List Expr × List Token)
  | 0, ts => failAt ts .tooDeep
  | n + 1, ts => do
    let (e, rest) ← readLevel v n .disjunction ts
    if front rest = .comma then do
      let (es, rest) ← readArgumentList v n (advance rest)
      pure (e :: es, rest)
    else do
      let rest ← expect .rightParen .parenOrComma rest
      pure ([e], rest)

end

def depthAllowance (ts : List Token) : Nat := 16 * (ts.length + 1)

def parse (v : Vocabulary) (ts : List Token) : Except Failure Expr := do
  let (e, rest) ← readLevel v (depthAllowance ts) .disjunction ts
  if front rest = .finish then pure e else failAt rest (.unexpected (front rest))

end TreeAudit.Query
