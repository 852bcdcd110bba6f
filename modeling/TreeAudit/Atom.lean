import TreeAudit.Decimal.Style

-- Single values: texts, numbers and truth values. Attributes of nodes and properties of rules are
-- single values, and so are the parts of query results that are not nodes.
namespace TreeAudit

inductive Atom
  | text (s : String)
  | number (x : Float)
  | truth (b : Bool)
deriving Repr, DecidableEq

def Atom.show : Atom → String
  | .text s => s
  | .number x => Decimal.format x
  | .truth b => toString b

def Atom.toNumber : Atom → Float
  | .text s => Decimal.ofText s
  | .number x => x
  | .truth b => if b then 1 else 0

-- Whether a value counts as true: an empty text, zero and the value that is not a number do
-- not.
def Atom.truthy : Atom → Bool
  | .text s => !s.isEmpty
  | .number x => !(x == 0) && !x.isNaN
  | .truth b => b

end TreeAudit
