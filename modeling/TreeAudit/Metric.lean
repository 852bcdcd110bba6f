import TreeAudit.Tree.Walk
import TreeAudit.Text.Ascii

-- Metrics of nodes. A metric has a key, applies to some nodes and gives a number under a set of
-- options. Values are kept in a memo of the tree, by node, key and written options; since options are
-- written by joining their names, two sets of options whose written forms agree share one entry.
namespace TreeAudit

-- A set of option names, in order and without repetition.
structure MetricOptions where
  names : List String
deriving Repr, DecidableEq

namespace MetricOptions

def empty : MetricOptions := ⟨[]⟩

-- Puts a name at its place among ordered names, unless it is there.
def insertName (name : String) : List String → List String
  | [] => [name]
  | n :: ns =>
    if name = n then n :: ns
    else if name < n then name :: n :: ns
    else n :: insertName name ns

def ofNames (names : List String) : MetricOptions := ⟨names.foldr insertName []⟩

def contains (o : MetricOptions) (name : String) : Bool := o.names.contains name

def restrict (o : MetricOptions) (known : List String) : MetricOptions :=
  ⟨o.names.filter known.contains⟩

def written (o : MetricOptions) : String := ",".intercalate o.names

end MetricOptions

structure MemoKey where
  node : NodeId
  metric : String
  options : String
deriving Repr, DecidableEq

structure Memo where
  entries : List (MemoKey × Option Float)
deriving Repr

namespace Memo

def empty : Memo := ⟨[]⟩

def find? (m : Memo) (k : MemoKey) : Option (Option Float) := m.entries.lookup k

def insert (m : Memo) (k : MemoKey) (v : Option Float) : Memo := ⟨(k, v) :: m.entries⟩

end Memo

structure Metric where
  key : String
  description : String
  applies : Tree → NodeId → Bool
  measure : Tree → MetricOptions → NodeId → StateM Memo Float
  options : List String
  required : List String

namespace Metric

-- The value for a node: nothing where the metric does not apply or the number is not finite.
def compute (m : Metric) (t : Tree) (o : MetricOptions) (id : NodeId) : StateM Memo (Option Float) :=
  if m.applies t id then do
    let x ← m.measure t o id
    pure (if x.isFinite then some x else none)
  else pure none

-- The value for a node, taken from the memo if it is there and put there if it is not.
def computeMemoized (m : Metric) (t : Tree) (o : MetricOptions) (id : NodeId) :
    StateM Memo (Option Float) := do
  let k : MemoKey := ⟨id, m.key, o.written⟩
  match (← get).find? k with
  | some v => pure v
  | none =>
    let v ← m.compute t o id
    modify fun memo => memo.insert k v
    pure v

def value (m : Metric) (t : Tree) (o : MetricOptions) (id : NodeId) : Option Float :=
  (m.compute t o id Memo.empty).1

def missingOption? (m : Metric) (o : MetricOptions) : Option String :=
  m.required.find? fun name => !o.contains name

def withKey? (ms : List Metric) (key : String) : Option Metric := ms.find? (Text.equalIgnoringCase ·.key key)

end Metric

namespace Tree

-- The number of nodes on the stack and below them that count. Nodes of the kinds in `barriers`
-- are passed over with all that is below them.
def countFrom (t : Tree) (barriers : List String) (counts : NodeId → Bool) : Nat → List NodeId → Nat
  | 0, _ => 0
  | _ + 1, [] => 0
  | steps + 1, id :: stack =>
    if barriers.contains (t.kind id) then countFrom t barriers counts steps stack
    else (if counts id then 1 else 0) +
      countFrom t barriers counts steps (t.children id ++ stack)

-- The number of nodes below a node that count, where nodes of the kinds in `barriers` hide
-- themselves and all that is below them.
def countBelow (t : Tree) (id : NodeId) (barriers : List String) (counts : NodeId → Bool) : Nat :=
  t.countFrom barriers counts t.size (t.children id)

end Tree

end TreeAudit
