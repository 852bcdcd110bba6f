import TreeAudit.Tree.Basic

-- Functions on nodes chosen by the kind of the node: a list of arms, of which the one added last for
-- a kind counts, and a fallback for all other kinds.
namespace TreeAudit

structure Dispatch (α : Type) where
  fallback : Tree → NodeId → α
  arms : List (String × (Tree → NodeId → α)) := []

namespace Dispatch

def on (d : Dispatch α) (kind : String) (arm : Tree → NodeId → α) : Dispatch α :=
  { d with arms := (kind, arm) :: d.arms }

def onEach (d : Dispatch α) (kinds : List String) (arm : Tree → NodeId → α) : Dispatch α :=
  kinds.foldl (fun d kind => d.on kind arm) d

def handles (d : Dispatch α) (kind : String) : Bool := (d.arms.lookup kind).isSome

def apply (d : Dispatch α) (t : Tree) (id : NodeId) : α :=
  (d.arms.lookup (t.kind id)).getD d.fallback t id

end Dispatch

end TreeAudit
