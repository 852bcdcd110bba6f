import TreeAudit.Tree.Basic

-- Ways through a tree. Upward the parent links are followed; downward a stack holds the nodes still to
-- be visited, the next one first. Since every node of a tree is put on the stack once, the number of
-- nodes bounds the steps.
namespace TreeAudit.Tree

-- The nodes above a node, nearest first. A parent stands before its children, which ends the
-- climb.
def ancestors (t : Tree) (id : NodeId) : List NodeId :=
  match t.parent id with
  | some p => if p < id then p :: ancestors t p else []
  | none => []
termination_by id

def followingSiblings (t : Tree) (id : NodeId) : List NodeId :=
  match t.parent id with
  | some p => (t.children p).drop (t.indexInParent id + 1)
  | none => []

-- The siblings before a node, nearest first.
def precedingSiblings (t : Tree) (id : NodeId) : List NodeId :=
  match t.parent id with
  | some p => ((t.children p).take (t.indexInParent id)).reverse
  | none => []

-- The nodes on the stack and below them, each before its children.
def preorder (t : Tree) : Nat → List NodeId → List NodeId
  | 0, _ => []
  | _ + 1, [] => []
  | steps + 1, id :: stack => id :: preorder t steps (t.children id ++ stack)

def descendants (t : Tree) (id : NodeId) : List NodeId := t.preorder t.size (t.children id)

def descendantsOrSelf (t : Tree) (id : NodeId) : List NodeId := t.preorder t.size [id]

-- The nodes on the stack and below them, each after its children. A node is marked once its
-- children have been put before it.
def postorder (t : Tree) : Nat → List (NodeId × Bool) → List NodeId
  | 0, _ => []
  | _ + 1, [] => []
  | steps + 1, (id, expanded) :: stack =>
    if expanded || t.isLeaf id then id :: postorder t steps stack
    else postorder t steps ((t.children id).map (·, false) ++ (id, true) :: stack)

def postOrder (t : Tree) (id : NodeId) : List NodeId := t.postorder (2 * t.size) [(id, false)]

inductive Visit
  | descend
  | skip
  | stop
deriving Repr, DecidableEq

-- Visits the nodes on the stack, with a state that each visit changes. Answers whether the walk
-- came to its end.
def walkFrom (t : Tree) (visit : σ → NodeId → σ × Visit) : Nat → σ → List NodeId → σ × Bool
  | 0, s, _ => (s, true)
  | _ + 1, s, [] => (s, true)
  | steps + 1, s, id :: stack =>
    match visit s id with
    | (s, .stop) => (s, false)
    | (s, .skip) => walkFrom t visit steps s stack
    | (s, .descend) => walkFrom t visit steps s (t.children id ++ stack)

def walk (t : Tree) (id : NodeId) (visit : σ → NodeId → σ × Visit) (s : σ) : σ × Bool :=
  t.walkFrom visit t.size s [id]

end TreeAudit.Tree
