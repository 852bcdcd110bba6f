import TreeAudit.Language
import TreeAudit.Query.Expr
import TreeAudit.Tree.Walk

-- Evaluation of expressions over a tree. The focus is the document, which stands above the root and is
-- no node, or an item; steps take places to places in document order, and predicates keep the items
-- for which they hold.
namespace TreeAudit.Query

inductive Place
  | document
  | item (i : Item)
deriving Repr, DecidableEq

def Place.item? : Place → Option Item
  | document => none
  | item i => some i

structure Context where
  focus : Place
  position : Nat
  size : Nat
deriving Repr, DecidableEq

def Context.document : Context := ⟨.document, 1, 1⟩

structure Setting where
  tree : Tree
  language : Language

namespace Setting

def node (s : Setting) (id : NodeId) : Except Failure NodeId :=
  if id < s.tree.size then .ok id else .error (.evaluation (.foreignNode id))

def axisNodes (s : Setting) (axis : Axis) (id : NodeId) : List NodeId :=
  match axis with
  | .child => s.tree.children id
  | .descendant => s.tree.descendants id
  | .descendantOrSelf => s.tree.descendantsOrSelf id
  | .parent => (s.tree.parent id).toList
  | .ancestor => s.tree.ancestors id
  | .ancestorOrSelf => id :: s.tree.ancestors id
  | .self => [id]
  | .followingSibling => s.tree.followingSiblings id
  | .precedingSibling => s.tree.precedingSiblings id
  | .attributes => []

-- The nodes on an axis from the document, whose only child is the root.
def documentNodes (s : Setting) (axis : Axis) : List NodeId :=
  match axis with
  | .child => [Tree.root]
  | .descendant => s.tree.descendantsOrSelf Tree.root
  | .descendantOrSelf => s.tree.descendantsOrSelf Tree.root
  | _ => []

def attributeValues (s : Setting) (test : NodeTest) (id : NodeId) : List Atom :=
  match test with
  | .any => (s.language.attributesOf s.tree id).map (·.value)
  | .name n => (s.language.attributeNamed? s.tree id n).toList

-- The items that a step reaches from a place, before its predicates.
def candidates (s : Setting) (axis : Axis) (test : NodeTest) (p : Place) :
    Except Failure (List Item) :=
  let passing (ids : List NodeId) := (ids.filter fun n => test.accepts (s.tree.name n)).map Item.node
  match p with
  | .document => .ok (passing (s.documentNodes axis))
  | .item (.node id) => do
    let id ← s.node id
    if axis = .attributes then pure ((s.attributeValues test id).map .atom)
    else pure (passing (s.axisNodes axis id))
  | .item (.atom _) => .error (.evaluation .stepFromValue)

end Setting

-- Whether an item at a position is kept by a predicate with a value. A single number keeps the item
-- at that position.
def keeps (position : Nat) (v : Value) : Except Failure Bool :=
  match v with
  | [.number x] => .ok (x == Float.ofNat position)
  | v => v.condition

def filterFrom (holds : Context → Except Failure Value) (size : Nat) :
    Nat → List Item → Except Failure (List Item)
  | _, [] => .ok []
  | position, i :: is => do
    let keep ← keeps position (← holds ⟨.item i, position, size⟩)
    let rest ← filterFrom holds size (position + 1) is
    pure (if keep then i :: rest else rest)

def filterItems (holds : Context → Except Failure Value) (items : List Item) :
    Except Failure (List Item) :=
  filterFrom holds items.length 1 items

def operand (t : Tree) (v : Value) : Except Failure (Option Float) :=
  match v with
  | [] => .ok none
  | [i] => .ok (some (i.toNumber t))
  | v => .error (.evaluation (.manyOperands v.length))

def arrange (items : List Item) : List Item :=
  if Value.allNodes items then Value.ofNodes (documentOrder (Value.nodeIds items)) else items

def Step.keepsDocument (s : Step) (places : List Place) : Bool :=
  s.axis = .descendantOrSelf && s.test = .any && s.predicates.isEmpty && places.contains .document

def placesAfter (keepsDocument : Bool) (selected : List Item) : List Place :=
  (if keepsDocument then [.document] else []) ++ (arrange selected).map .item

def unite (l r : Value) : Except Failure Value :=
  if l.allNodes && r.allNodes then .ok (Value.ofNodes (documentOrder (l.nodeIds ++ r.nodeIds)))
  else .error (.evaluation .unionOfValues)

def Setting.focusNode (s : Setting) (c : Context) : Except Failure (Option NodeId) :=
  match c.focus with
  | .item (.node id) => do pure (some (← s.node id))
  | _ => .ok none

def Setting.callSite (s : Setting) (f : QueryFunction) (c : Context) : Except Failure CallSite := do
  let focus ← s.focusNode c
  if f.needsFocus && focus.isNone then .error (.evaluation (.noFocus f.name))
  else
    pure { tree := s.tree, focus, metrics := s.language.metrics, function := f.name,
           position := c.position, size := c.size }

mutual

def Expr.eval (s : Setting) : Expr → Context → Except Failure Value
  | .const v, _ => .ok v
  | .focus, c => .ok c.focus.item?.toList
  | .or l r, c => do
    if ← (← l.eval s c).condition then pure (Value.truth true)
    else pure (Value.truth (← (← r.eval s c).condition))
  | .and l r, c => do
    if ← (← l.eval s c).condition then pure (Value.truth (← (← r.eval s c).condition))
    else pure (Value.truth false)
  | .compare op l r, c => do
    let x ← l.eval s c
    let y ← r.eval s c
    pure (Value.truth (op.compare s.tree x y))
  | .arith op l r, c => do
    let x ← operand s.tree (← l.eval s c)
    let y ← operand s.tree (← r.eval s c)
    match x, y with
    | some x, some y => pure (Value.number (op.apply x y))
    | _, _ => pure []
  | .neg e, c => do
    match ← operand s.tree (← e.eval s c) with
    | some x => pure (Value.number (-x))
    | none => pure []
  | .union l r, c => do
    let x ← l.eval s c
    let y ← r.eval s c
    unite x y
  | .filter e predicates, c => do evalPredicates s predicates (← e.eval s c)
  | .path origin steps, c => do
    let places ← evalSteps s steps (← origin.places s c)
    pure (places.filterMap Place.item?)
  | .call f args, c => do
    let site ← s.callSite f c
    let values ← evalArgs s f.name 0 f.parameters args c
    f.call site values

def Origin.places (s : Setting) : Origin → Context → Except Failure (List Place)
  | .document, _ => .ok [.document]
  | .focus, c => .ok [c.focus]
  | .value e, c => do pure ((← e.eval s c).map .item)

def evalSteps (s : Setting) : List Step → List Place → Except Failure (List Place)
  | [], places => .ok places
  | step :: steps, places => do
    let next ← step.eval s places
    evalSteps s steps next

def Step.eval (s : Setting) : Step → List Place → Except Failure (List Place)
  | .mk axis test predicates, places => do
    let selected ← places.mapM fun p => do
      evalPredicates s predicates (← s.candidates axis test p)
    pure (placesAfter ((Step.mk axis test predicates).keepsDocument places) selected.flatten)

def evalPredicates (s : Setting) : List Expr → List Item → Except Failure (List Item)
  | [], items => .ok items
  | p :: ps, items => do
    let kept ← filterItems (fun c => p.eval s c) items
    evalPredicates s ps kept

def evalArgs (s : Setting) (function : String) (index : Nat) :
    List SequenceType → List Expr → Context → Except Failure (List Value)
  | ty :: types, arg :: args, c => do
    let v ← ty.convert s.tree function index (← arg.eval s c)
    let vs ← evalArgs s function (index + 1) types args c
    pure (v :: vs)
  | _, _, _ => .ok []

end

end TreeAudit.Query
