import TreeAudit.Unicode.CaseMap

-- How bad a violation is.
namespace TreeAudit

inductive Severity
  | error
  | warning
  | info
deriving Repr, DecidableEq

namespace Severity

def name : Severity → String
  | error => "error"
  | warning => "warning"
  | info => "info"

def named? (s : String) : Option Severity := [error, warning, info].find? (·.name = s)

def read (s : String) : Except String Severity :=
  match named? (Unicode.toLower s) with
  | some v => .ok v
  | none => .error s!"unknown severity: {s}"

def rank : Severity → Nat
  | error => 0
  | warning => 1
  | info => 2

def worse (a b : Severity) : Severity := if a.rank ≤ b.rank then a else b

end Severity

end TreeAudit
