import TreeAudit.Report.Document

-- Reports as SARIF 2.1.0 logs of one run. Each violation is a result; files that could not be analyzed
-- are notifications of the execution and rules that cannot run are notifications of the configuration.
-- The tool lists the rules that have results, each with the level of its worst violation.
namespace TreeAudit.Sarif

structure Region where
  startLine : Nat
  startColumn : Nat
  endLine : Nat
  endColumn : Nat
deriving Repr, DecidableEq

structure Location where
  uri : String
  region : Option Region
deriving Repr, DecidableEq

structure Result where
  rule : String
  level : String
  message : String
  locations : List Location
deriving Repr, DecidableEq

structure Notification where
  level : String
  message : String
  locations : List Location
  rule : Option String
deriving Repr, DecidableEq

structure RuleLevel where
  id : String
  level : String
deriving Repr, DecidableEq

structure Run where
  rules : List RuleLevel
  results : List Result
  successful : Bool
  execution : List Notification
  configuration : List Notification
deriving Repr, DecidableEq

def level : Severity → String
  | .error => "error"
  | .warning => "warning"
  | .info => "note"

def uri (file : String) : String :=
  String.ofList (file.toList.map fun c => if c = '\\' then '/' else c)

-- A span as a region; lines and columns are at least one.
def region (s : Span) : Region :=
  ⟨max s.startLine 1, max s.startColumn 1, max s.endLine 1, max s.endColumn 1⟩

def noteRule (v : Violation) : List (String × Severity) → List (String × Severity)
  | [] => [(v.rule, v.severity)]
  | (id, worst) :: rest =>
    if v.rule = id then (id, worst.worse v.severity) :: rest
    else if v.rule < id then (v.rule, v.severity) :: (id, worst) :: rest
    else (id, worst) :: noteRule v rest

def ruleSeverities (vs : List Violation) : List (String × Severity) :=
  vs.foldl (fun seen v => noteRule v seen) []

def result (v : Violation) : Result :=
  ⟨v.rule, level v.severity, v.message, [⟨uri v.file, some (region v.span)⟩]⟩

def executionNote (e : ProcessingError) : Notification :=
  ⟨"error", e.detail, [⟨uri e.file, none⟩], none⟩

def configurationNote (e : ConfigurationError) : Notification :=
  ⟨"error", e.detail, [], some e.rule⟩

def run (r : Report) : Run :=
  { rules := (ruleSeverities r.violations).map fun (id, s) => ⟨id, level s⟩
    results := r.violations.map result
    successful := r.processingErrors.isEmpty
    execution := r.processingErrors.map executionNote
    configuration := r.configurationErrors.map configurationNote }

open Json (field?)

def Region.toJson (r : Region) : Json :=
  .object [
    ("startLine", .number r.startLine), ("startColumn", .number r.startColumn),
    ("endLine", .number r.endLine), ("endColumn", .number r.endColumn)]

def Location.toJson (l : Location) : Json :=
  .object [("physicalLocation", .object (
    ("artifactLocation", .object [("uri", .string l.uri)]) ::
      field? "region" (l.region.map Region.toJson)))]

def messageObject (text : String) : Json := .object [("text", .string text)]

def RuleLevel.toJson (r : RuleLevel) : Json :=
  .object [("id", .string r.id), ("defaultConfiguration", .object [("level", .string r.level)])]

def Result.toJson (r : Result) : Json :=
  .object [
    ("ruleId", .string r.rule), ("level", .string r.level), ("message", messageObject r.message),
    ("locations", .array (r.locations.map Location.toJson))]

def Notification.toJson (n : Notification) : Json :=
  .object ([("level", .string n.level), ("message", messageObject n.message)] ++
    (if n.locations.isEmpty then []
      else [("locations", .array (n.locations.map Location.toJson))]) ++
    field? "associatedRule" (n.rule.map fun id => .object [("id", .string id)]))

def Run.toJson (r : Run) : Json :=
  .object [
    ("tool", .object [("driver", .object [
      ("name", .string toolName), ("version", .string version),
      ("rules", .array (r.rules.map RuleLevel.toJson))])]),
    ("results", .array (r.results.map Result.toJson)),
    ("invocations", .array [.object [
      ("executionSuccessful", .boolean r.successful),
      ("toolExecutionNotifications", .array (r.execution.map Notification.toJson)),
      ("toolConfigurationNotifications", .array (r.configuration.map Notification.toJson))]])]

def log (r : Run) : Json :=
  .object [
    ("version", .string "2.1.0"),
    ("$schema", .string "https://raw.githubusercontent.com/oasis-tcs/sarif-spec/master/Schemata/sarif-schema-2.1.0.json"),
    ("runs", .array [r.toJson])]

end TreeAudit.Sarif
