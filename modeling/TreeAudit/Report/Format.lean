import TreeAudit.Report.Lines
import TreeAudit.Report.Sarif

-- The formats in which a report can be written.
namespace TreeAudit

inductive Format
  | text
  | json
  | sarif
deriving Repr, DecidableEq

namespace Format

def name : Format → String
  | text => "text"
  | json => "json"
  | sarif => "sarif"

-- Reads a format in any case of letters; `pretty` is another word for text.
def read (s : String) : Except String Format :=
  match Unicode.toLower s with
  | "text" | "pretty" => .ok text
  | "json" => .ok json
  | "sarif" => .ok sarif
  | _ => .error s!"unknown format: {s}"

def render (f : Format) (st : Report.LineStyle) (r : Report) : String :=
  match f with
  | text => r.toLines st
  | json => r.toJson.pretty ++ "\n"
  | sarif => (Sarif.log (Sarif.run r)).pretty ++ "\n"

end Format

end TreeAudit
