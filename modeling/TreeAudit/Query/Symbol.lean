import TreeAudit.Decimal.Style

-- The symbols that queries are written with. Words such as `or` and `div` are names; whether a name is
-- an operator depends on where it stands.
namespace TreeAudit.Query

inductive Symbol
  | slash
  | doubleSlash
  | leftBracket
  | rightBracket
  | leftParen
  | rightParen
  | at
  | comma
  | dot
  | dotDot
  | star
  | bar
  | plus
  | minus
  | equal
  | notEqual
  | less
  | lessEqual
  | greater
  | greaterEqual
  | doubleColon
  | dollar
  | name (s : String)
  | string (s : String)
  | number (x : Float)
  | finish
deriving Repr, DecidableEq

def Symbol.describe : Symbol → String
  | .slash => "Slash"
  | .doubleSlash => "DoubleSlash"
  | .leftBracket => "LBracket"
  | .rightBracket => "RBracket"
  | .leftParen => "LParen"
  | .rightParen => "RParen"
  | .at => "At"
  | .comma => "Comma"
  | .dot => "Dot"
  | .dotDot => "DotDot"
  | .star => "Star"
  | .bar => "Pipe"
  | .plus => "Plus"
  | .minus => "Minus"
  | .equal => "Eq"
  | .notEqual => "Ne"
  | .less => "Lt"
  | .lessEqual => "Le"
  | .greater => "Gt"
  | .greaterEqual => "Ge"
  | .doubleColon => "ColonColon"
  | .dollar => "Dollar"
  | .name s => s!"name '{s}'"
  | .string s => s!"string '{s}'"
  | .number x => s!"number {Decimal.positional.text x}"
  | .finish => "end of query"

structure Token where
  symbol : Symbol
  offset : Nat
deriving Repr, DecidableEq

end TreeAudit.Query
