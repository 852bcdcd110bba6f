import TreeAudit.Metric
import TreeAudit.Query.Value

-- Functions that queries can call. A function has typed parameters and a result type; arguments are
-- converted to the types of the parameters before the call. A check on literal arguments, where a
-- function has one, is made when the query is compiled.
namespace TreeAudit.Query

inductive ItemType
  | string
  | number
  | boolean
  | node
  | any
deriving Repr, DecidableEq

structure SequenceType where
  item : ItemType
  many : Bool
deriving Repr, DecidableEq

namespace SequenceType

def one (item : ItemType) : SequenceType := ⟨item, false⟩
def several (item : ItemType) : SequenceType := ⟨item, true⟩

end SequenceType

-- What a function knows about the place of its call: the tree, the node in focus if there is one,
-- the metrics of the language, the name it was called by, and the position of the focus among
-- `size`.
structure CallSite where
  tree : Tree
  focus : Option NodeId
  metrics : List Metric
  function : String
  position : Nat
  size : Nat

def CallSite.focusNode (c : CallSite) : Except Failure NodeId :=
  match c.focus with
  | some id => .ok id
  | none => .error (.evaluation (.noFocus c.function))

-- What can fail while the memo of the tree is at hand. What was noted before a failure stays noted.
abbrev Recalling (α : Type) := ExceptT Failure (StateM Memo) α

-- A function answers calls in two ways: from the tree alone, and with the memo of the tree at hand. Only
-- a function that asks for metrics has a use for the memo.
structure QueryFunction where
  name : String
  parameters : List SequenceType
  result : SequenceType
  needsFocus : Bool
  call : CallSite → List Value → Except Failure Value
  check : Option (List (Option Item) → List Metric → Except Failure Unit)
  recalled : CallSite → List Value → Recalling Value := fun c args => ExceptT.mk (pure (call c args))

namespace ItemType

def convert (ty : ItemType) (t : Tree) (function : String) (index : Nat) (i : Item) :
    Except Failure Item :=
  match ty with
  | .string => .ok (.text (i.toText t))
  | .number => .ok (.number (i.toNumber t))
  | .boolean => do
    let b ← Value.condition [i]
    pure (.truth b)
  | .node => if i.isNode then .ok i else .error (.evaluation (.notANode index function))
  | .any => .ok i

-- What an argument without items stands for.
def absent : ItemType → Value
  | .string => Value.text ""
  | .number => Value.number (0.0 / 0.0)
  | .boolean => Value.truth false
  | .node => []
  | .any => []

end ItemType

def SequenceType.convert (ty : SequenceType) (t : Tree) (function : String) (index : Nat)
    (v : Value) : Except Failure Value :=
  if !ty.many && 1 < v.length then .error (.evaluation (.manyValues index function v.length))
  else if v.isEmpty && !ty.many then .ok ty.item.absent
  else v.mapM (ty.item.convert t function index)

def argText (args : List Value) (i : Nat) : String :=
  match args[i]? with
  | some [.text s] => s
  | _ => ""

def argValue (args : List Value) (i : Nat) : Value := args.getD i []

def argTruth (args : List Value) (i : Nat) : Bool :=
  match args[i]? with
  | some [.truth b] => b
  | _ => false

-- How functions read their arguments: the text that one is, or all that one holds.
structure ArgumentReader where
  text : List Value → Nat → Except Failure String
  value : List Value → Nat → Except Failure Value

-- An argument that is missing, or no text where a text is asked for, reads as an empty one.
def ArgumentReader.lenient : ArgumentReader :=
  ⟨fun args i => .ok (argText args i), fun args i => .ok (argValue args i)⟩

def literalText? (args : List (Option Item)) (i : Nat) : Option String :=
  match args[i]? with
  | some (some (.text s)) => some s
  | _ => none

end TreeAudit.Query
