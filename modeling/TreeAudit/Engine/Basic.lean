import TreeAudit.Registry
import TreeAudit.Rule.Basic
import TreeAudit.Rule.Set

-- Engines: the rules of a run with the languages that they are for. A rule that cannot be compiled, or
-- whose language is not known, is noted as an error and left out; other rules do not depend on it.
namespace TreeAudit

structure Engine where
  registry : Registry
  rules : List Rule := []
  setupErrors : List ConfigurationError := []

namespace Engine

-- Notes a rule that cannot run.
def reject (e : Engine) (rule detail : String) : Engine :=
  { e with setupErrors := e.setupErrors ++ [⟨rule, detail⟩] }

def unknownLanguage (id : String) : String := s!"unknown language '{id}'"

def addRule (e : Engine) (r : Rule) : Engine :=
  match e.registry.lookup? r.language with
  | some _ => { e with rules := e.rules ++ [r] }
  | none => e.reject r.id (unknownLanguage r.language)

def addDefinition (e : Engine) (d : RuleDefinition) : Engine :=
  match e.registry.lookup? d.language with
  | none => e.reject d.id (unknownLanguage d.language)
  | some l =>
    match d.compile l with
    | .ok r => { e with rules := e.rules ++ [r.toRule] }
    | .error f => e.reject d.id f.message

def addEntry (e : Engine) : RuleEntry → Engine
  | .defined d => e.addDefinition d
  | .rejected id problem => e.reject id problem.message

def addRuleSet (e : Engine) (s : RuleSet) : Engine := s.rules.foldl addEntry e

end Engine

end TreeAudit
