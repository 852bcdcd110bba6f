import TreeAudit.Language
import TreeAudit.Report.Severity

-- Reports: what was found, which files could not be analyzed and which rules cannot run. Reports only
-- grow at their end; the report of a run is made of the reports of its parts, one after the other.
namespace TreeAudit

structure Violation where
  rule : String
  severity : Severity
  message : String
  file : String
  span : Span
  scope : Scope
deriving Repr, DecidableEq

-- A file that could not be parsed or analyzed, with the texts of the causes if there are any.
structure ProcessingError where
  file : String
  message : String
  cause : Option String := none
deriving Repr, DecidableEq

-- A rule that cannot run.
structure ConfigurationError where
  rule : String
  detail : String
deriving Repr, DecidableEq

namespace ProcessingError

def causedBy : String := "\nCaused by: "

def ofChain (file : String) (message : String) (causes : List String) : ProcessingError :=
  { file
    message
    cause := if causes.isEmpty then none else some (causedBy.intercalate causes) }

def detail (e : ProcessingError) : String :=
  match e.cause with
  | some c => e.message ++ causedBy ++ c
  | none => e.message

end ProcessingError

structure Report where
  violations : List Violation := []
  processingErrors : List ProcessingError := []
  configurationErrors : List ConfigurationError := []
  files : Nat := 0
deriving Repr, DecidableEq

namespace Report

def empty : Report := {}

def addViolation (r : Report) (v : Violation) : Report :=
  { r with violations := r.violations ++ [v] }

def addProcessingError (r : Report) (e : ProcessingError) : Report :=
  { r with processingErrors := r.processingErrors ++ [e] }

def addConfigurationError (r : Report) (e : ConfigurationError) : Report :=
  { r with configurationErrors := r.configurationErrors ++ [e] }

def addFile (r : Report) : Report := { r with files := r.files + 1 }

def append (r s : Report) : Report :=
  { violations := r.violations ++ s.violations
    processingErrors := r.processingErrors ++ s.processingErrors
    configurationErrors := r.configurationErrors ++ s.configurationErrors
    files := r.files + s.files }

def merge (rs : List Report) : Report := rs.foldl append empty

-- Whether nothing has been reported; counted files do not matter.
def isEmpty (r : Report) : Bool :=
  r.violations.isEmpty && r.processingErrors.isEmpty && r.configurationErrors.isEmpty

def hasErrors (r : Report) : Bool :=
  !r.processingErrors.isEmpty || !r.configurationErrors.isEmpty

def hasFindings (r : Report) : Bool := !r.violations.isEmpty || r.hasErrors

end Report

end TreeAudit
