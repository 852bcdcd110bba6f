import TreeAudit.CommandLine.Request
import TreeAudit.Engine.Run
import TreeAudit.FileTree
import TreeAudit.Languages
import TreeAudit.Rule.BuiltIn
import TreeAudit.Text.Column

-- Answers to command lines: what is printed and the exit code. An answer depends on the words and on
-- what is found at the paths that they name. The code is zero if nothing was found, one if there are
-- findings and two if there is nothing to report on.
namespace TreeAudit.CommandLine

structure Answer where
  code : Nat
  output : String := ""
  errors : String := ""
deriving Repr, DecidableEq

abbrev Lookup := String → Except AccessError FileTree

namespace Answer

def failure (reason : String) : Answer := { code := 2, errors := s!"Error: {reason}\n" }

def ruleSet (look : Lookup) : Option String → Except String RuleSet
  | none => .ok .builtIn
  | some path =>
    match (look path).bind FileTree.read with
    | .error e => .error s!"failed to read rule set {path}: {e.message}"
    | .ok text =>
      match RuleSet.ofText? text with
      | some s => .ok s
      | none => .error s!"invalid rule set {path}"

def skipsDirectory (name : String) : Bool :=
  name.startsWith "." || ["node_modules", "target", "__pycache__"].contains name

def isSource (r : Registry) (path : String) : Bool :=
  (r.forExtension? ((PathName.extension? path).getD "")).isSome

-- The files that are analyzed. A file that is named itself always is; of those below a directory
-- the sources that no pattern excludes are.
def chosenFiles (r : Registry) (s : RuleSet) (path : String) (t : FileTree) :
    List (String × Except AccessError String) :=
  let found := t.files skipsDirectory path
  if t.isDirectory then found.filter fun (p, _) => isSource r p && !s.excludes p else found

def taskOf (file : String × Except AccessError String) : FileTask :=
  let (path, text) := file
  match text with
  | .ok source => .ok { file := path, source }
  | .error e => .error (.ofChain path s!"failed to read {path}" [e.message])

def ofFiles (c : CheckRequest) (colour : Bool) (s : RuleSet) (t : FileTree) : Answer :=
  let r := Registry.builtIn
  let files := chosenFiles r s c.path t
  let engine := Engine.addRuleSet { registry := r } s
  let report := engine.run (files.map taskOf) false
  { code := if report.hasFindings then 1 else 0
    output := c.format.render { colour, scopes := c.scopes } report
    errors := if files.isEmpty then "Warning: no files to analyze\n" else "" }

-- The answer to a check. Rules are looked at before the path.
def ofCheck (look : Lookup) (colour : Bool) (c : CheckRequest) : Answer :=
  match ruleSet look c.rules with
  | .error reason => failure reason
  | .ok s =>
    match look c.path with
    | .error e => failure s!"cannot access path {Text.quotedPath c.path}: {e.message}"
    | .ok t => ofFiles c colour s t

def languageLines (l : Language) : List String :=
  let extensions := " ".intercalate (l.extensions.map ("." ++ ·))
  ("  " ++ Text.padRight 10 l.id ++ " " ++ Text.padRight 10 l.displayName ++ " " ++ extensions) ::
    l.metrics.map fun m => "      " ++ Text.padRight 8 m.key ++ " " ++ m.description

def ofLanguages (r : Registry) : Answer :=
  let lines := "Supported languages:" :: "" :: r.languages.flatMap languageLines
  { code := 0, output := String.join (lines.map (· ++ "\n")) }

def usage : String :=
  "Usage: treelint [--verbose] check PATH [--rules FILE] [--format FORMAT] [--threads N]\n" ++
  "                [--show-scope]\n" ++
  "       treelint [--verbose] languages\n" ++
  "       treelint --version\n"

def ofWords (look : Lookup) (colour : Bool) (words : List String) : Answer :=
  match Request.read words with
  | .ok (.check c) => ofCheck look colour c
  | .ok .languages => ofLanguages .builtIn
  | .ok .version => { code := 0, output := s!"{toolName} {version}\n" }
  | .ok .help => { code := 0, output := usage }
  | .error p => { code := 2, errors := s!"error: {p.message}\n\n" ++ usage }

end Answer

-- The paths that a command line names; an answer depends on nothing else.
def pathsOf (words : List String) : List String :=
  match Request.read words with
  | .ok (.check c) => c.rules.toList ++ [c.path]
  | _ => []

end TreeAudit.CommandLine
