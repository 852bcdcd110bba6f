import TreeAudit.Engine.Run

-- Runs in which the rules of a file share its tree and with it the memo of metrics: what one rule has had
-- measured, the rules after it look up. The memo starts out empty for each file. A rule that fails or
-- breaks off leaves its entries behind.
namespace TreeAudit.Engine

def shareRules (l : Language) (t : Tree) (file : String) (o : FileOutcome) :
    Nat → List Rule → StateM Memo FileOutcome
  | _, [] => pure o
  | place, r :: rs => do
    if r.language = l.id then
      let answer ← r.recalled l t
      shareRules l t file (o.addResult l t file place (r.answering answer)) (place + 1) rs
    else shareRules l t file o (place + 1) rs

def analyzeSharing (e : Engine) (input : SourceInput) : FileOutcome :=
  e.analyzeBy (fun l t =>
    (shareRules l t input.file { report := Report.empty.addFile } 0 e.rules Memo.empty).1) input

def performSharing (e : Engine) : FileTask → FileOutcome := performBy e.analyzeSharing

def runSharing (e : Engine) (events : List Schedule.Event) (tasks : List FileTask) : Report :=
  e.runBy e.performSharing events tasks

end TreeAudit.Engine
