import TreeAudit.Engine.Analysis
import TreeAudit.Engine.Schedule

-- Runs over many files. Each file is a task of its own; what the tasks give is put together in the order
-- of the files. Rules that are at fault are reported once, in front, by the first file that shows it.
namespace TreeAudit

-- A file to be analyzed, or why it could not be read.
abbrev FileTask := Except ProcessingError SourceInput

namespace Engine

def performBy (analyzed : SourceInput → FileOutcome) : FileTask → FileOutcome
  | .ok input => analyzed input
  | .error problem => .failed problem

def perform (e : Engine) : FileTask → FileOutcome := performBy e.analyze

-- The rules at fault whose places are not among those seen, each by its first mention.
def newlyBroken (seen : List Nat) : List BrokenRule → List BrokenRule
  | [] => []
  | b :: bs =>
    if seen.contains b.place then newlyBroken seen bs else b :: newlyBroken (b.place :: seen) bs

def ruleId (e : Engine) (place : Nat) : String := ((e.rules[place]?).map (·.id)).getD ""

def runErrors (e : Engine) (outcomes : List FileOutcome) : List ConfigurationError :=
  e.setupErrors ++
    (newlyBroken [] (outcomes.flatMap (·.broken))).map fun b => ⟨e.ruleId b.place, b.detail⟩

def reportOf (e : Engine) (outcomes : List FileOutcome) : Report :=
  Report.merge ({ configurationErrors := e.runErrors outcomes } :: outcomes.map (·.report))

def runBy (e : Engine) (performed : FileTask → FileOutcome) (events : List Schedule.Event)
    (tasks : List FileTask) : Report :=
  let work (i : Nat) : Option FileOutcome := (tasks[i]?).map performed
  let outcomes := Schedule.collect tasks.length (Schedule.run work events)
  e.reportOf (outcomes.filterMap Option.join)

def runUnder (e : Engine) (events : List Schedule.Event) (tasks : List FileTask) : Report :=
  e.runBy e.perform events tasks

-- The report of a run, which may be cancelled before it starts.
def run (e : Engine) (tasks : List FileTask) (cancelled : Bool) : Report :=
  e.runUnder (Schedule.plain tasks.length cancelled) tasks

end Engine

end TreeAudit
