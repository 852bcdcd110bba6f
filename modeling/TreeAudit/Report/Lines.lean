import TreeAudit.Report.Basic
import TreeAudit.Text.Column
import TreeAudit.Text.Escape

-- Reports as lines of text, one for each finding: first the rules that cannot run, then violations,
-- then files that could not be analyzed, and after an empty line a summary. Texts are escaped, so that
-- none of them ends a line. Tags and places may be coloured.
namespace TreeAudit

structure Paint where
  codes : List Nat
deriving Repr, DecidableEq

namespace Paint

def red : Paint := ⟨[31]⟩
def green : Paint := ⟨[32]⟩
def yellow : Paint := ⟨[33]⟩
def blue : Paint := ⟨[34]⟩
def boldRed : Paint := ⟨[1, 31]⟩
def dim : Paint := ⟨[2]⟩

def wrap (p : Paint) (s : String) : String :=
  "\x1b[" ++ ";".intercalate (p.codes.map toString) ++ "m" ++ s ++ "\x1b[0m"

end Paint

namespace Report

-- How lines are written: in colour or plain, with the declarations around a violation or
-- without.
structure LineStyle where
  colour : Bool := false
  scopes : Bool := false
deriving Repr, DecidableEq

namespace LineStyle

def paint (st : LineStyle) (p : Paint) (s : String) : String := if st.colour then p.wrap s else s

def ruleColumn (st : LineStyle) (rule : String) : String :=
  st.paint .dim (Text.padRight 24 (Text.escapeControl rule))

def severityTag (st : LineStyle) : Severity → String
  | .error => st.paint .red "ERROR "
  | .warning => st.paint .yellow "WARN  "
  | .info => st.paint .blue "INFO  "

def scopeNote (st : LineStyle) (s : Scope) : String :=
  let names := s.className.toList ++ s.method.toList
  if st.scopes && !names.isEmpty then
    " " ++ st.paint .dim ("(" ++ "#".intercalate (names.map Text.escapeControl) ++ ")")
  else ""

def configurationLine (st : LineStyle) (e : ConfigurationError) : String :=
  st.paint .boldRed "CONFIG" ++ " " ++ st.ruleColumn e.rule ++ " " ++ Text.escapeControl e.detail

def violationLine (st : LineStyle) (v : Violation) : String :=
  let place := s!"{Text.escapeControl v.file}:{v.span.place}"
  st.severityTag v.severity ++ " " ++ st.paint .blue place ++ " " ++ st.ruleColumn v.rule ++ " " ++
    Text.escapeControl v.message ++ st.scopeNote v.scope

def processingLine (st : LineStyle) (e : ProcessingError) : String :=
  st.paint .boldRed "FAILED" ++ " " ++ st.paint .blue (Text.escapeControl e.file) ++ ": " ++
    Text.escapeControl e.detail

-- A number of things, with a plural ending unless it is one.
def countOf (n : Nat) (thing : String) : String :=
  s!"{n} {thing}" ++ if n = 1 then "" else "s"

def summaryLine (st : LineStyle) (r : Report) : String :=
  let status := if r.hasFindings then st.paint .red "FAIL" else st.paint .green "PASS"
  let errors := r.processingErrors.length + r.configurationErrors.length
  status ++ " " ++ countOf r.files "file" ++ " analyzed, " ++
    countOf r.violations.length "violation" ++ ", " ++ countOf errors "error"

end LineStyle

def lines (r : Report) (st : LineStyle) : List String :=
  r.configurationErrors.map st.configurationLine ++ r.violations.map st.violationLine ++
    r.processingErrors.map st.processingLine ++ ["", st.summaryLine r]

-- The lines as one text; each ends with a line end.
def toLines (r : Report) (st : LineStyle) : String := String.join ((r.lines st).map (· ++ "\n"))

end Report

end TreeAudit
