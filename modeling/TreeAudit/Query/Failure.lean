import TreeAudit.Query.Symbol

-- Why a query cannot be compiled or evaluated. All failures but those of evaluation are mistakes in the
-- definition of the query.
namespace TreeAudit.Query

inductive Expectation
  | expression
  | nameTest
  | variableName
  | leftParen
  | rightParen
  | rightBracket
  | parenOrComma
deriving Repr, DecidableEq

def Expectation.describe : Expectation → String
  | .expression => "an expression"
  | .nameTest => "a name test"
  | .variableName => "a variable name"
  | .leftParen => "'('"
  | .rightParen => "')'"
  | .rightBracket => "']'"
  | .parenOrComma => "')' or ','"

inductive SyntaxProblem
  | loneExclamation
  | loneColon
  | openString
  | badNumber (text : String)
  | strayCharacter (c : Char)
  | bareSlash
  | missingStep
  | unknownAxis (name : String)
  | expected (what : Expectation) (found : Symbol)
  | unexpected (found : Symbol)
  | tooDeep
deriving Repr, DecidableEq

def SyntaxProblem.message : SyntaxProblem → String
  | .loneExclamation => "expected '=' after '!'"
  | .loneColon => "unexpected ':'"
  | .openString => "unterminated string literal"
  | .badNumber text => s!"bad number literal '{text}': invalid float literal"
  | .strayCharacter c => s!"unexpected character '{c}'"
  | .bareSlash => "a bare '/' does not select anything"
  | .missingStep => "expected a step after '//'"
  | .unknownAxis name => s!"unknown axis '{name}'"
  | .expected what found => s!"expected {what.describe}, found {found.describe}"
  | .unexpected found => s!"unexpected {found.describe}"
  | .tooDeep => "nesting too deep"

inductive ArgumentProblem
  | unknownMetric (key : String)
  | missingOption (metric option : String)
  | badPattern (pattern : String)
  | other (text : String)
deriving Repr, DecidableEq

def ArgumentProblem.message : ArgumentProblem → String
  | .unknownMetric key => s!"'{key}' is not the name of a metric"
  | .missingOption metric option => s!"metric '{metric}' requires option '{option}'"
  | .badPattern pattern => s!"invalid regular expression '{pattern}': "
  | .other text => text

inductive EvaluationProblem
  | foreignNode (id : Nat)
  | foreignTree (compiled tree : String)
  | noFocus (function : String)
  | manyValues (argument : Nat) (function : String) (count : Nat)
  | notANode (argument : Nat) (function : String)
  | manyOperands (count : Nat)
  | unionOfValues
  | stepFromValue
  | noTruth (count : Nat)
  | badPattern (pattern : String)
  | other (text : String)
deriving Repr, DecidableEq

def EvaluationProblem.message : EvaluationProblem → String
  | .foreignNode id => s!"node {id} is not part of this tree"
  | .foreignTree compiled tree => s!"query compiled for '{compiled}' applied to a '{tree}' tree"
  | .noFocus function => s!"Incorrect node type: the '{function}' function cannot be applied"
  | .manyValues argument function count =>
    s!"argument {argument + 1} of '{function}' must be a single value, got a sequence of {count}"
  | .notANode argument function => s!"argument {argument + 1} of '{function}' must be a node"
  | .manyOperands count => s!"arithmetic operand is a sequence of {count} items"
  | .unionOfValues => "operands of '|' must be node sequences"
  | .stepFromValue => "a path step cannot be applied to an atomic value"
  | .noTruth count =>
    s!"effective boolean value is not defined for a sequence of {count} atomic values"
  | .badPattern pattern => s!"invalid regular expression '{pattern}': "
  | .other text => text

inductive Failure
  | badSyntax (offset : Nat) (problem : SyntaxProblem)
  | unknownFunction (name : String)
  | unknownVariable (name : String)
  | arity (name : String) (expected found : Nat)
  | badArgument (problem : ArgumentProblem)
  | evaluation (problem : EvaluationProblem)
deriving Repr, DecidableEq

namespace Failure

def message : Failure → String
  | .badSyntax offset problem => s!"syntax error at offset {offset}: {problem.message}"
  | .unknownFunction name => s!"unknown function '{name}'"
  | .unknownVariable name => s!"unknown variable '${name}'"
  | .arity name expected found =>
    s!"function '{name}' expects {expected} argument(s), got {found}"
  | .badArgument problem => problem.message
  | .evaluation problem => problem.message

-- Whether the query is at fault and not the tree that it was applied to.
def isConfiguration : Failure → Bool
  | .evaluation _ => false
  | _ => true

end Failure

end TreeAudit.Query
