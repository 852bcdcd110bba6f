import TreeAudit.Atom
import TreeAudit.Query.Failure
import TreeAudit.Tree.Basic

-- Values of queries. A value is a sequence of items, each a node or a single value; a single value is
-- a sequence of one item and no result is the empty sequence.
namespace TreeAudit.Query

inductive Item
  | node (id : NodeId)
  | atom (a : Atom)
deriving Repr, DecidableEq

abbrev Value := List Item

namespace Item

@[match_pattern] abbrev text (s : String) : Item := .atom (.text s)
@[match_pattern] abbrev number (x : Float) : Item := .atom (.number x)
@[match_pattern] abbrev truth (b : Bool) : Item := .atom (.truth b)

def isNode : Item → Bool
  | node _ => true
  | atom _ => false

def nodeId? : Item → Option NodeId
  | node id => some id
  | atom _ => none

def toText (t : Tree) : Item → String
  | node id => t.text id
  | atom a => a.show

def toNumber (t : Tree) : Item → Float
  | node id => Decimal.ofText (t.text id)
  | atom a => a.toNumber

-- An item without its place in the tree: a node becomes its text.
def atomize (t : Tree) : Item → Atom
  | node id => .text (t.text id)
  | atom a => a

end Item

namespace Value

def truth (b : Bool) : Value := [.truth b]
def number (x : Float) : Value := [.number x]
def count (n : Nat) : Value := [.number (Float.ofNat n)]
def text (s : String) : Value := [.text s]
def ofNodes (ids : List NodeId) : Value := ids.map .node

def nodeIds (v : Value) : List NodeId := v.filterMap Item.nodeId?

def allNodes (v : Value) : Bool := v.all Item.isNode

def single? : Value → Option Item
  | [i] => some i
  | _ => none

-- A value as a condition: nothing is false, a sequence that starts with a node is true, and a
-- single value counts by its own rule.
def condition : Value → Except Failure Bool
  | [] => .ok false
  | .node _ :: _ => .ok true
  | [.atom a] => .ok a.truthy
  | v => .error (.evaluation (.noTruth v.length))

end Value

def dropRepeats : List Nat → List Nat
  | [] => []
  | [a] => [a]
  | a :: b :: rest => if a = b then dropRepeats (b :: rest) else a :: dropRepeats (b :: rest)

def documentOrder (ids : List NodeId) : List NodeId := dropRepeats (ids.mergeSort (· ≤ ·))

end TreeAudit.Query
