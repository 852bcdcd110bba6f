import TreeAudit.Proofs.Report.Fields
import TreeAudit.Report.Document

-- What a document tells of a report: all of it. Each record is told by its fields alone; fields are left
-- out only where that itself says what they would hold.
namespace TreeAudit

open Json (Same lookup_field lookup_unless)

section Records
variable {s t : Span} {u v : Violation} {d e : ProcessingError} {a b : ConfigurationError} {p q : Scope}
  {c k : Severity} {one two : Option String}

theorem Severity.name_inj (same : c.name = k.name) : c = k := by
  cases c <;> cases k <;> first | rfl | exact absurd same (by decide)

theorem Span.toJson_inj (same : Same s.toJson t.toJson) : s = t := by
  have startByte := (same.field "start_byte" rfl rfl).number_inj
  have endByte := (same.field "end_byte" rfl rfl).number_inj
  have startLine := (same.field "start_line" rfl rfl).number_inj
  have startColumn := (same.field "start_col" rfl rfl).number_inj
  have endLine := (same.field "end_line" rfl rfl).number_inj
  have endColumn := (same.field "end_col" rfl rfl).number_inj
  cases s
  cases t
  cases startByte; cases endByte; cases startLine; cases startColumn; cases endLine; cases endColumn
  rfl

-- A text and its absence.
theorem Json.Same.given_inj (same : Option.Rel Same (one.map .string) (two.map .string)) :
    one = two := by
  cases one <;> cases two <;> cases same
  · rfl
  · rename_i same
    rw [same.string_inj]

theorem Scope.toJson_inj (same : Same p.toJson q.toJson) : p = q := by
  have package := same.lookup "package_name"
  have className := same.lookup "class_name"
  have method := same.lookup "method_name"
  simp only [List.lookup_append,lookup_field,String.reduceEq,if_true,if_false,Option.or_none,
    Option.none_or] at package className method
  cases p
  cases q
  cases Same.given_inj package; cases Same.given_inj className; cases Same.given_inj method
  rfl

theorem Scope.eq_of_isEmpty (empty : p.isEmpty = true) : p = {} := by
  obtain ⟨package,className,method⟩ := p
  simp only [isEmpty,Bool.and_eq_true,Option.isNone_iff_eq_none] at empty
  obtain ⟨⟨rfl,rfl⟩,rfl⟩ := empty
  rfl

-- A scope without names is left out, and only such a scope.
theorem Scope.shown_inj (same : Option.Rel Same (if p.isEmpty then none else some p.toJson)
    (if q.isEmpty then none else some q.toJson)) : p = q := by
  by_cases first : p.isEmpty = true <;> by_cases second : q.isEmpty = true <;>
    simp only [first,second,if_true,Bool.false_eq_true,if_false] at same <;> cases same
  · rw [eq_of_isEmpty first,eq_of_isEmpty second]
  · exact toJson_inj ‹_›

theorem Violation.toJson_inj (same : Same u.toJson v.toJson) : u = v := by
  have rule := (same.field "rule_id" rfl rfl).string_inj
  have severity := Severity.name_inj (same.field "severity" rfl rfl).string_inj
  have message := (same.field "message" rfl rfl).string_inj
  have file := (same.field "file" rfl rfl).string_inj
  have span := Span.toJson_inj (same.field "span" rfl rfl)
  have scope : Option.Rel Same (if u.scope.isEmpty then none else some u.scope.toJson)
      (if v.scope.isEmpty then none else some v.scope.toJson) := by
    have both := same.lookup "scope"
    rwa [List.lookup_append,List.lookup_append,lookup_unless,lookup_unless] at both
  cases u
  cases v
  cases rule; cases severity; cases message; cases file; cases span; cases Scope.shown_inj scope
  rfl

theorem ProcessingError.lt_length_cause (message cause : String) :
    message.length < (message ++ causedBy ++ cause).length := by
  have between : 0 < causedBy.length := by decide
  rw [String.length_append,String.length_append]
  omega

-- With the message known, the detail tells whether there is a cause and which.
theorem ProcessingError.cause_inj (message : d.message = e.message) (detail : d.detail = e.detail) :
    d.cause = e.cause := by
  obtain ⟨_,message,first⟩ := d
  obtain ⟨_,_,second⟩ := e
  cases message
  cases first <;> cases second
  case none.none => rfl
  case none.some cause =>
    exact absurd (congrArg String.length detail) (Nat.ne_of_lt (lt_length_cause message cause))
  case some.none cause =>
    exact absurd (congrArg String.length detail) (Nat.ne_of_gt (lt_length_cause message cause))
  case some.some =>
    have texts := congrArg String.toList detail
    simp only [ProcessingError.detail,String.toList_append,List.append_cancel_left_eq] at texts
    rw [String.toList_inj.mp texts]

theorem ProcessingError.toJson_inj (same : Same d.toJson e.toJson) : d = e := by
  have file := (same.field "file" rfl rfl).string_inj
  have message := (same.field "message" rfl rfl).string_inj
  have detail := (same.field "detail" rfl rfl).string_inj
  have cause := cause_inj message detail
  cases d
  cases e
  cases file; cases message; cases cause
  rfl

theorem ConfigurationError.toJson_inj (same : Same a.toJson b.toJson) : a = b := by
  have rule := (same.field "rule_id" rfl rfl).string_inj
  have detail := (same.field "detail" rfl rfl).string_inj
  cases a
  cases b
  cases rule; cases detail
  rfl

end Records

-- Lists of records, written one after the other.
theorem Json.Same.map_inj {write : α → Json} (each : ∀ {a b}, Same (write a) (write b) → a = b)
    {as bs : List α} (same : Same (.array (as.map write)) (.array (bs.map write))) : as = bs := by
  have entries := List.forall₂_map_left_iff.mp (List.forall₂_map_right_iff.mp same.items)
  exact List.forall₂_eq_eq_eq ▸ entries.imp fun _ _ => each

-- Documents that hold the same, in whatever order their fields stand, are those of one report.
theorem Report.toJson_same_iff (r s : Report) : Same r.toJson s.toJson ↔ r = s := by
  constructor
  · intro same
    have files := (same.field "files_analyzed" rfl rfl).number_inj
    have violations := (same.field "violations" rfl rfl).map_inj Violation.toJson_inj
    have processing := (same.field "processing_errors" rfl rfl).map_inj ProcessingError.toJson_inj
    have configuration :=
      (same.field "configuration_errors" rfl rfl).map_inj ConfigurationError.toJson_inj
    cases r
    cases s
    cases files; cases violations; cases processing; cases configuration
    rfl
  · rintro rfl
    exact Same.refl _

end TreeAudit
