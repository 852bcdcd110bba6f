-- Schedules of independent tasks. Tasks start and finish in any order, and the run may be cancelled at
-- any time: a task that starts after that is skipped. Results are collected by the number of the task,
-- whatever the order in which they came.
namespace TreeAudit.Schedule

inductive Event
  | start (task : Nat)
  | finish (task : Nat)
  | cancel
deriving Repr, DecidableEq

-- What has happened so far: whether the run is cancelled, which tasks are under way, and the results
-- of those that are done.
structure Progress (α : Type) where
  cancelled : Bool := false
  underWay : List Nat := []
  results : List (Nat × α) := []
deriving Repr

-- One event; a task that was skipped has nothing to finish.
def Progress.step (work : Nat → α) (p : Progress α) : Event → Progress α
  | .start i => if p.cancelled then p else { p with underWay := i :: p.underWay }
  | .finish i =>
    if p.underWay.contains i then
      { p with underWay := p.underWay.erase i, results := (i, work i) :: p.results }
    else p
  | .cancel => { p with cancelled := true }

def run (work : Nat → α) (events : List Event) : Progress α :=
  events.foldl (Progress.step work) {}

-- The results of the first `n` tasks; a task that was skipped has none.
def collect (n : Nat) (p : Progress α) : List (Option α) :=
  (List.range n).map fun i => p.results.lookup i

def sequential (n : Nat) : List Event := (List.range n).flatMap fun i => [.start i, .finish i]

-- One task after the other, unless the run is cancelled before the first.
def plain (n : Nat) (cancelled : Bool) : List Event :=
  (if cancelled then [.cancel] else []) ++ sequential n

end TreeAudit.Schedule
