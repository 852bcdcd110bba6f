import TreeAudit.PathGlob
import TreeAudit.Rule.Definition
import TreeAudit.Yaml.Content

-- Rule sets: files of rules with a name, a description and patterns for paths that are not analyzed. A
-- rule that cannot be used keeps its place as a rejected entry.
namespace TreeAudit

inductive RuleEntry
  | defined (d : RuleDefinition)
  | rejected (id : String) (problem : RuleProblem)
deriving Repr

def RuleEntry.id : RuleEntry → String
  | defined d => d.id
  | rejected id _ => id

def RuleEntry.definition? : RuleEntry → Option RuleDefinition
  | defined d => some d
  | rejected _ _ => none

structure RuleSet where
  name : String := ""
  description : Option String := none
  excludedPaths : List String := []
  rules : List RuleEntry := []
deriving Repr

namespace RuleSet

def entryId (index : Nat) (v : Yaml.Value) : String :=
  match (v.get? "id").bind Yaml.Value.text? with
  | some id => if id.isEmpty then s!"rules[{index}]" else id
  | none => s!"rules[{index}]"

-- Decodes the entry at a place, whose id must not be among those taken.
def entryOf (taken : List String) (index : Nat) (v : Yaml.Value) : RuleEntry :=
  match RuleDefinition.ofValue v with
  | .ok d => if taken.contains d.id then .rejected d.id (.takenId d.id) else .defined d
  | .error problem => .rejected (entryId index v) problem

def entriesFrom (taken : List String) (index : Nat) : List Yaml.Value → List RuleEntry
  | [] => []
  | v :: vs =>
    let e := entryOf taken index v
    e :: entriesFrom (e.definition?.toList.map (·.id) ++ taken) (index + 1) vs

structure Parts where
  name : Option String := none
  description : Option (Option String) := none
  excludedPaths : Option (List String) := none
  rules : Option (List Yaml.Value) := none

open Yaml in
-- Reads one entry of the file. A field may be given once; unknown ones are passed over.
def Parts.readEntry (d : Document) (p : Parts) (entry : Yaml.Node × Yaml.Node) : Reads Parts := do
  let key ← d.textOf entry.1
  let v := entry.2
  if key = "name" then
    if p.name.isSome then failure
    let name ← d.textOf v
    pure { p with name := some name }
  else if key = "description" then
    if p.description.isSome then failure
    let description ← d.textOrNone v
    pure { p with description := some description }
  else if key = "excluded_paths" then
    if p.excludedPaths.isSome then failure
    let items ← d.itemsOf v
    let paths ← items.mapM d.textOf
    pure { p with excludedPaths := some paths }
  else if key = "rules" then
    if p.rules.isSome then failure
    let items ← d.itemsOf v
    -- the file and the list are the two collections around each rule
    let rules ← items.mapM (d.valueOf (greatestDepth - 2) false)
    pure { p with rules := some rules }
  else pure p

open Yaml in
-- The parts of a file. A file without content has none of them.
def Parts.ofDocument (d : Document) : Reads Parts :=
  match d.root with
  | none => pure {}
  | some root => do
    let entries ← d.entriesOf root
    entries.foldlM (Parts.readEntry d) {}

def ofParts (p : Parts) : RuleSet where
  name := p.name.getD ""
  description := p.description.join
  excludedPaths := p.excludedPaths.getD []
  rules := entriesFrom [] 0 (p.rules.getD [])

-- Reads a rule set; nothing if the text is none.
def ofText? (text : String) : Option RuleSet := do
  let d ← Yaml.Document.ofText? text
  let (p, _) ← (Parts.ofDocument d).run 0
  some (ofParts p)

def definitions (s : RuleSet) : List RuleDefinition := s.rules.filterMap RuleEntry.definition?

-- Whether a path is not analyzed: one of the patterns matches it.
def excludes (s : RuleSet) (path : String) : Bool :=
  s.excludedPaths.any fun pattern => PathGlob.isMatch pattern path

end RuleSet

end TreeAudit
