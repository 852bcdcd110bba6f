import TreeAudit.Engine.Basic
import TreeAudit.PathName

-- The analysis of one file: it is parsed, and each rule of its language is run on the tree. What a rule
-- finds counts only if the rule ends well. A rule that is itself at fault is noted by its place among
-- the rules, so that it can be reported once for the whole run.
namespace TreeAudit

structure SourceInput where
  file : String
  language : Option String := none
  source : String
deriving Repr, DecidableEq

structure BrokenRule where
  place : Nat
  detail : String
deriving Repr, DecidableEq

structure FileOutcome where
  report : Report := .empty
  broken : List BrokenRule := []
deriving Repr, DecidableEq

namespace FileOutcome

-- The outcome of a file that is not analyzed.
def failed (e : ProcessingError) : FileOutcome := { report := Report.empty.addProcessingError e }

def addError (o : FileOutcome) (e : ProcessingError) : FileOutcome :=
  { o with report := o.report.addProcessingError e }

def addResult (o : FileOutcome) (l : Language) (t : Tree) (file : String) (place : Nat) (r : Rule) :
    FileOutcome :=
  match r.apply l t with
  | (found, .done) =>
    { o with report := o.report.append { violations := found.map (r.violation l t) } }
  | (_, .failed f) =>
    if f.isConfiguration then { o with broken := o.broken ++ [⟨place, f.message⟩] }
    else o.addError (.ofChain file s!"rule '{r.id}': {f.message}" f.causes)
  | (_, .crashed c) =>
    o.addError { file, message := s!"rule '{r.id}' panicked", cause := some c.message }

end FileOutcome

namespace Engine

def languageFor (e : Engine) (input : SourceInput) : Option Language :=
  match input.language with
  | some id => e.registry.lookup? id
  | none => (PathName.extension? input.file).bind e.registry.forExtension?

def applyRules (l : Language) (t : Tree) (file : String) (o : FileOutcome) :
    Nat → List Rule → FileOutcome
  | _, [] => o
  | place, r :: rs =>
    let o := if r.language = l.id then o.addResult l t file place r else o
    applyRules l t file o (place + 1) rs

-- The outcome of a file, given what the rules make of its tree.
@[simp]
def analyzeBy (e : Engine) (applied : Language → Tree → FileOutcome) (input : SourceInput) : FileOutcome :=
  let file := input.file
  match e.languageFor input with
  | none => .failed { file, message := "no language handler for this file" }
  | some l =>
    match l.parser with
    | .error f => .failed { file, message := f.message }
    | .ok parse =>
      match parse input.source file with
      | .failed f => .failed { file, message := f.message }
      | .crashed c => .failed { file, message := "parser panicked", cause := some c.message }
      | .tree t => applied l t

def analyze (e : Engine) (input : SourceInput) : FileOutcome :=
  e.analyzeBy (fun l t => applyRules l t input.file { report := Report.empty.addFile } 0 e.rules) input

end Engine

end TreeAudit
