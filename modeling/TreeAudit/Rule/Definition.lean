import TreeAudit.Query.Basic
import TreeAudit.Report.Severity
import TreeAudit.Yaml.Value

-- Rules as they are written down: what is looked for by which query, and what is said about it. Rules
-- are decoded one by one, so that one that cannot be used leaves the others alone.
namespace TreeAudit

-- A rule. Its properties, ordered by name, are the variables of its query and fill the places in
-- its message that carry their names.
structure RuleDefinition where
  id : String
  language : String
  message : String
  severity : Severity := .warning
  description : Option String := none
  query : String
  properties : List (String × Atom) := []
deriving Repr, DecidableEq

inductive RuleProblem
  | wrongType (found : Yaml.Value) (expected : String)
  | unknownSeverity (name : String)
  | repeatedField (name : String)
  | missingField (name : String)
  | badId (id : String)
  | emptyQuery
  | propertiesNoMapping
  | badPropertyName (name : Yaml.Value)
  | badPropertyValue (name : String)
  | takenId (id : String)
deriving Repr

def RuleProblem.message : RuleProblem → String
  | wrongType found expected => s!"invalid type: {found.kindText}, expected {expected}"
  | unknownSeverity name =>
    s!"unknown variant `{name}`, expected one of `error`, `warning`, `info`"
  | repeatedField name => s!"duplicate field `{name}`"
  | missingField name => s!"missing field `{name}`"
  | badId id => s!"invalid rule id '{id}'"
  | emptyQuery => "empty query"
  | propertiesNoMapping => "properties must be a mapping"
  | badPropertyName name => s!"bad property name {name.describe}"
  | badPropertyValue name => s!"bad property value '{name}': expected a string, number or boolean"
  | takenId id => s!"duplicate rule id '{id}'"

namespace RuleDefinition

def bindings (d : RuleDefinition) : List (String × Query.Value) :=
  d.properties.map fun (name, a) => (name, [.atom a])

-- The message with its places filled, property after property. Places that carry the name of no
-- property stay.
def renderedMessage (d : RuleDefinition) : String :=
  d.properties.foldl (fun message (name, a) =>
    Text.replaceAll message ("\x7b" ++ name ++ "\x7d") a.show) d.message

end RuleDefinition

structure RuleFields where
  id : Option String := none
  language : Option String := none
  message : Option String := none
  severity : Option Severity := none
  description : Option (Option String) := none
  query : Option String := none

namespace RuleFields

open Yaml

def readText (v : Value) : Except RuleProblem String :=
  match v.text? with
  | some s => .ok s
  | none => .error (.wrongType v.untag "a string")

def severityNamed (name : String) : Except RuleProblem Severity :=
  match Severity.named? name with
  | some s => .ok s
  | none => .error (.unknownSeverity name)

def readSeverity : Value → Except RuleProblem Severity
  | .string name => severityNamed name
  | .tagged name v => do
    let s ← severityNamed name
    match v.untag with
    | .null => .ok s
    | v => .error (.wrongType v "unit")
  | v => .error (.wrongType v "a Value::Tagged enum")

def readDescription : Value → Except RuleProblem (Option String)
  | .null => .ok none
  | v => (readText v).map some

def once (name : String) (field : Option α) (read : Except RuleProblem α)
    (set : Option α → RuleFields) : Except RuleProblem RuleFields :=
  if field.isSome then .error (.repeatedField name) else read.map fun a => set (some a)

-- Reads one entry; names of other fields are passed over.
def readEntry (f : RuleFields) (entry : Value × Value) : Except RuleProblem RuleFields :=
  let (key, v) := entry
  match key.text? with
  | none => .error (.wrongType key.untag "field identifier")
  | some "id" => once "id" f.id (readText v) fun id => { f with id }
  | some "language" => once "language" f.language (readText v) fun language => { f with language }
  | some "message" => once "message" f.message (readText v) fun message => { f with message }
  | some "severity" => once "severity" f.severity (readSeverity v) fun severity => { f with severity }
  | some "description" =>
    once "description" f.description (readDescription v) fun description => { f with description }
  | some "query" => once "query" f.query (readText v) fun query => { f with query }
  | some _ => .ok f

def need (name : String) : Option String → Except RuleProblem String
  | some s => .ok s
  | none => .error (.missingField name)

-- The rule, without properties, that the fields make.
def complete (f : RuleFields) : Except RuleProblem RuleDefinition := do
  let id ← need "id" f.id
  let language ← need "language" f.language
  let message ← need "message" f.message
  let query ← need "query" f.query
  pure {
    id, language, message, query
    severity := f.severity.getD .warning
    description := f.description.join }

-- Reads the fields of a rule; nothing at all counts as no fields.
def read (v : Value) : Except RuleProblem RuleDefinition := do
  let entries ← match v.untag with
    | .mapping entries => .ok entries
    | .null => .ok []
    | v => .error (RuleProblem.wrongType v "struct RuleDefinition")
  let f ← entries.foldlM readEntry {}
  f.complete

end RuleFields

namespace RuleDefinition

def isId (s : String) : Bool :=
  match s.toList with
  | [] => false
  | c :: cs => c.isAlpha && cs.all fun c => c.isAlphanum || c = '_' || c = '-'

def propertyValue? : Yaml.Value → Option Atom
  | .boolean b => some (.truth b)
  | .number n => some (.number n.toFloat)
  | .string s => some (.text s)
  | _ => none

-- Puts a property at its place by name; one of the same name is replaced.
def insertProperty (name : String) (a : Atom) : List (String × Atom) → List (String × Atom)
  | [] => [(name, a)]
  | (n, b) :: rest =>
    if name = n then (name, a) :: rest
    else if name < n then (name, a) :: (n, b) :: rest
    else (n, b) :: insertProperty name a rest

def readProperties (done : List (String × Atom)) :
    List (Yaml.Value × Yaml.Value) → Except RuleProblem (List (String × Atom))
  | [] => .ok done
  | (.string name, v) :: rest =>
    match propertyValue? v with
    | some a => readProperties (insertProperty name a done) rest
    | none => .error (.badPropertyValue name)
  | (key, _) :: _ => .error (.badPropertyName key)

def readGiven : Option Yaml.Value → Except RuleProblem (List (String × Atom))
  | none | some .null => .ok []
  | some (.mapping entries) => readProperties [] entries
  | some _ => .error .propertiesNoMapping

-- The id and the query are looked at before the properties.
def ofValue (v : Yaml.Value) : Except RuleProblem RuleDefinition := do
  let d ← RuleFields.read (v.take "properties").2
  if !isId d.id then .error (.badId d.id)
  else if (Unicode.trim d.query).isEmpty then .error .emptyQuery
  else do
    let properties ← readGiven (v.take "properties").1
    pure { d with properties }

end RuleDefinition

end TreeAudit
