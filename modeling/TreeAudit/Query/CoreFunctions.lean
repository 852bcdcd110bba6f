import TreeAudit.Pattern.Syntax
import TreeAudit.Query.Signature

-- The functions that every language has: truth values, positions and counts, texts and patterns, the
-- structural name of a node and the metrics of the language. Each reads its arguments in a way that is
-- given, leniently unless another is.
namespace TreeAudit.Query

namespace QueryFunction

def simple (name : String) (parameters : List ItemType) (result : ItemType)
    (call : CallSite → List Value → Except Failure Value) : QueryFunction :=
  { name
    parameters := parameters.map SequenceType.one
    result := .one result
    needsFocus := false
    call
    check := none }

def onSequence (name : String) (result : ItemType) (call : Value → Except Failure Value)
    (r : ArgumentReader := .lenient) : QueryFunction :=
  { name
    parameters := [.several .any]
    result := .one result
    needsFocus := false
    call := fun _ args => do call (← r.value args 0)
    check := none }

def onTexts (name : String) (call : String → String → Bool) (r : ArgumentReader := .lenient) :
    QueryFunction :=
  simple name [.string, .string] .boolean fun _ args => do
    pure (Value.truth (call (← r.text args 0) (← r.text args 1)))

end QueryFunction

def occursIn (part : List Char) : List Char → Bool
  | [] => part.isEmpty
  | c :: cs => part.isPrefixOf (c :: cs) || occursIn part cs

-- How patterns are read: from the text of a pattern to the texts that it matches. Some texts are no
-- patterns.
abbrev PatternReader := String → Option (String → Bool)

def PatternReader.standard : PatternReader := fun pattern =>
  (Pattern.ofText? pattern).map Pattern.isMatch

-- Whether a text matches a pattern; a text that is no pattern is refused.
def matchesPattern (read : PatternReader) (s pattern : String) : Except Failure Value :=
  match read pattern with
  | some holds => .ok (Value.truth (holds s))
  | none => .error (.evaluation (.badPattern pattern))

-- The value of a metric for the node in focus, not a number where it does not apply.
def metricValue (c : CallSite) (key : String) : Except Failure Value :=
  match Metric.withKey? c.metrics key with
  | none => .error (.badArgument (.unknownMetric key))
  | some m => do
    let id ← c.focusNode
    pure (Value.number ((m.value c.tree .empty id).getD (0.0 / 0.0)))

-- The same value by way of the memo.
def recalledMetric (c : CallSite) (key : String) : Recalling Value :=
  match Metric.withKey? c.metrics key with
  | none => throw (.badArgument (.unknownMetric key))
  | some m => do
    let id ← c.focusNode
    let value ← m.computeMemoized c.tree .empty id
    pure (Value.number (value.getD (0.0 / 0.0)))

open QueryFunction in
def coreFunctions (read : PatternReader) (r : ArgumentReader := .lenient) : List QueryFunction := [
  simple "true" [] .boolean fun _ _ => .ok (Value.truth true),
  simple "false" [] .boolean fun _ _ => .ok (Value.truth false),
  onSequence "not" .boolean (fun v => do pure (Value.truth (!(← v.condition)))) r,
  onSequence "boolean" .boolean (fun v => do pure (Value.truth (← v.condition))) r,
  simple "position" [] .number fun c _ => .ok (Value.count c.position),
  simple "last" [] .number fun c _ => .ok (Value.count c.size),
  onSequence "count" .number (fun v => .ok (Value.count v.length)) r,
  onSequence "exists" .boolean (fun v => .ok (Value.truth (!v.isEmpty))) r,
  onSequence "empty" .boolean (fun v => .ok (Value.truth v.isEmpty)) r,
  simple "string" [.string] .string fun _ args => do pure (Value.text (← r.text args 0)),
  simple "number" [.number] .number fun _ args => r.value args 0,
  simple "string-length" [.string] .number fun _ args => do
    pure (Value.count (← r.text args 0).length),
  onTexts "contains" (fun s t => occursIn t.toList s.toList) r,
  onTexts "starts-with" (fun s t => t.toList.isPrefixOf s.toList) r,
  onTexts "ends-with" (fun s t => t.toList.isSuffixOf s.toList) r,
  simple "lower-case" [.string] .string fun _ args => do
    pure (Value.text (Unicode.toLower (← r.text args 0))),
  simple "upper-case" [.string] .string fun _ args => do
    pure (Value.text (Unicode.toUpper (← r.text args 0))),
  { simple "matches" [.string, .string] .boolean (fun _ args => do
      matchesPattern read (← r.text args 0) (← r.text args 1)) with
    check := some fun literals _ =>
      match literalText? literals 1 with
      | some pattern =>
        if (read pattern).isSome then .ok ()
        else .error (.badArgument (.badPattern pattern))
      | none => .ok () },
  { simple "name" [] .string (fun c _ => do
      let id ← c.focusNode
      pure (Value.text (c.tree.name id))) with
    needsFocus := true },
  { simple "metric" [.string] .number (fun c args => do metricValue c (← r.text args 0)) with
    needsFocus := true
    recalled := fun c args => do recalledMetric c (← r.text args 0)
    check := some fun literals metrics =>
      match literalText? literals 0 with
      | some key =>
        if (Metric.withKey? metrics key).isSome then .ok ()
        else .error (.badArgument (.unknownMetric key))
      | none => .ok () }]

end TreeAudit.Query
