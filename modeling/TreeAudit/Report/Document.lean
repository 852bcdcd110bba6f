import TreeAudit.Json
import TreeAudit.Report.Basic

-- Reports as JSON documents. What is absent is left out: causes, names of a scope and scopes without
-- names.
namespace TreeAudit

open Json (field?)

def toolName : String := "treelint"

def version : String := "0.1.0"

def Span.toJson (s : Span) : Json :=
  .object [
    ("start_byte", .number s.startByte), ("end_byte", .number s.endByte),
    ("start_line", .number s.startLine), ("start_col", .number s.startColumn),
    ("end_line", .number s.endLine), ("end_col", .number s.endColumn)]

def Scope.toJson (s : Scope) : Json :=
  .object (field? "package_name" (s.package.map .string) ++
    field? "class_name" (s.className.map .string) ++ field? "method_name" (s.method.map .string))

def Violation.toJson (v : Violation) : Json :=
  .object ([
    ("rule_id", .string v.rule), ("severity", .string v.severity.name),
    ("message", .string v.message), ("file", .string v.file), ("span", v.span.toJson)] ++
    if v.scope.isEmpty then [] else [("scope", v.scope.toJson)])

def ConfigurationError.toJson (e : ConfigurationError) : Json :=
  .object [("rule_id", .string e.rule), ("detail", .string e.detail)]

def ProcessingError.toJson (e : ProcessingError) : Json :=
  .object [("file", .string e.file), ("message", .string e.message), ("detail", .string e.detail)]

def Report.toJson (r : Report) : Json :=
  .object [
    ("version", .string version), ("files_analyzed", .number r.files),
    ("violations", .array (r.violations.map Violation.toJson)),
    ("processing_errors", .array (r.processingErrors.map ProcessingError.toJson)),
    ("configuration_errors", .array (r.configurationErrors.map ConfigurationError.toJson))]

end TreeAudit
