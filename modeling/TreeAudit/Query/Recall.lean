import TreeAudit.Query.Basic

-- Evaluation with the memo of the tree at hand, as it is done while the rules of a run share a tree. It
-- goes the way of evaluation without a memo; a function that asks for a metric looks it up first and
-- notes what it had to measure.
namespace TreeAudit

namespace Query

def recallFrom (holds : Context → Recalling Value) (size : Nat) :
    Nat → List Item → Recalling (List Item)
  | _, [] => pure []
  | position, i :: is => do
    let keep ← keeps position (← holds ⟨.item i, position, size⟩)
    let rest ← recallFrom holds size (position + 1) is
    pure (if keep then i :: rest else rest)

def recallItems (holds : Context → Recalling Value) (items : List Item) : Recalling (List Item) :=
  recallFrom holds items.length 1 items

mutual

def Expr.recalled (s : Setting) : Expr → Context → Recalling Value
  | .const v, _ => pure v
  | .focus, c => pure c.focus.item?.toList
  | .or l r, c => do
    if ← (← l.recalled s c).condition then pure (Value.truth true)
    else pure (Value.truth (← (← r.recalled s c).condition))
  | .and l r, c => do
    if ← (← l.recalled s c).condition then pure (Value.truth (← (← r.recalled s c).condition))
    else pure (Value.truth false)
  | .compare op l r, c => do
    let x ← l.recalled s c
    let y ← r.recalled s c
    pure (Value.truth (op.compare s.tree x y))
  | .arith op l r, c => do
    let x ← operand s.tree (← l.recalled s c)
    let y ← operand s.tree (← r.recalled s c)
    match x, y with
    | some x, some y => pure (Value.number (op.apply x y))
    | _, _ => pure []
  | .neg e, c => do
    match ← operand s.tree (← e.recalled s c) with
    | some x => pure (Value.number (-x))
    | none => pure []
  | .union l r, c => do
    let x ← l.recalled s c
    let y ← r.recalled s c
    unite x y
  | .filter e predicates, c => do recallPredicates s predicates (← e.recalled s c)
  | .path origin steps, c => do
    let places ← recallSteps s steps (← origin.recalled s c)
    pure (places.filterMap Place.item?)
  | .call f args, c => do
    let site ← s.callSite f c
    let values ← recallArgs s f.name 0 f.parameters args c
    f.recalled site values

def Origin.recalled (s : Setting) : Origin → Context → Recalling (List Place)
  | .document, _ => pure [.document]
  | .focus, c => pure [c.focus]
  | .value e, c => do pure ((← e.recalled s c).map .item)

def recallSteps (s : Setting) : List Step → List Place → Recalling (List Place)
  | [], places => pure places
  | step :: steps, places => do
    let next ← step.recalled s places
    recallSteps s steps next

def Step.recalled (s : Setting) : Step → List Place → Recalling (List Place)
  | .mk axis test predicates, places => do
    let selected ← places.mapM fun p => do
      recallPredicates s predicates (← s.candidates axis test p)
    pure (placesAfter ((Step.mk axis test predicates).keepsDocument places) selected.flatten)

def recallPredicates (s : Setting) : List Expr → List Item → Recalling (List Item)
  | [], items => pure items
  | p :: ps, items => do
    let kept ← recallItems (fun c => p.recalled s c) items
    recallPredicates s ps kept

def recallArgs (s : Setting) (function : String) (index : Nat) :
    List SequenceType → List Expr → Context → Recalling (List Value)
  | ty :: types, arg :: args, c => do
    let v ← ty.convert s.tree function index (← arg.recalled s c)
    let vs ← recallArgs s function (index + 1) types args c
    pure (v :: vs)
  | _, _, _ => pure []

end

end Query

namespace PathQuery

open Query

def recallValue (q : PathQuery) (t : Tree) (language : Language) : Recalling Value :=
  if t.language ≠ q.language ∨ language.id ≠ q.language then
    throw (.evaluation (.foreignTree q.language t.language))
  else q.expr.recalled ⟨t, language⟩ Context.document

def recallNodes (q : PathQuery) (t : Tree) (language : Language) : Recalling (List NodeId) := do
  let v ← q.recallValue t language
  pure ((Value.nodeIds v).filter (· < t.size))

end PathQuery

end TreeAudit
