import Mathlib.Data.List.Forall2
import TreeAudit.Proofs.Text.Escaping
import TreeAudit.Report.Format

-- How a report reads as lines. Each part of a line is escaped or written by the program itself, so that
-- a line holds no line end: what its parts show and that they stay on one line is put together as the line is.
namespace TreeAudit

-- Texts that stand in another one after the other, with anything between them.
def Shows : List String → String → Prop
  | [], _ => True
  | t :: ts, s => ∃ before after, s = before ++ t ++ after ∧ Shows ts after

section Shows
variable {ts us : List String} {a b : String}

theorem Shows.before (a : String) (shows : Shows ts b) : Shows ts (a ++ b) := by
  cases ts with
  | nil => trivial
  | cons t ts =>
    obtain ⟨before,after,rfl,rest⟩ := shows
    exact ⟨a ++ before,after,by simp only [String.append_assoc],rest⟩

theorem Shows.append (first : Shows ts a) (second : Shows us b) : Shows (ts ++ us) (a ++ b) := by
  induction ts generalizing a with
  | nil => exact second.before a
  | cons t ts ih =>
    obtain ⟨before,after,rfl,rest⟩ := first
    exact ⟨before,after ++ b,by simp only [String.append_assoc],ih rest⟩

theorem Shows.self (t : String) : Shows [t] t := ⟨"","",by simp,trivial⟩

end Shows

-- A part of a line and what it shows. Its only control characters are those that colours start with.
structure Inline (colour : Bool) (ts : List String) (s : String) : Prop where
  shows : Shows ts s
  control : ∀ c ∈ s.toList, Unicode.isControl c = true → colour = true ∧ c = '\x1b'

section Inline
variable {colour : Bool} {ts us : List String} {s a b : String}

theorem Inline.append (first : Inline colour ts a) (second : Inline colour us b) :
    Inline colour (ts ++ us) (a ++ b) where
  shows := first.shows.append second.shows
  control c member := by
    rw [String.toList_append,List.mem_append] at member
    exact member.elim (first.control c) (second.control c)

-- A text without control characters, as itself.
theorem Inline.plain (colour : Bool) (none : ∀ c ∈ s.toList, Unicode.isControl c = false) :
    Inline colour [s] s :=
  ⟨.self s,fun c member control => absurd control (Bool.eq_false_iff.mp (none c member))⟩

-- Text between what is shown.
theorem Inline.bare (inline : Inline colour ts s) : Inline colour [] s := ⟨trivial,inline.control⟩

theorem Inline.newline_not_mem (inline : Inline colour ts s) : '\n' ∉ s.toList :=
  fun member => absurd (inline.control _ member (by decide)).2 (by decide)

theorem Inline.escaped (colour : Bool) (t : String) :
    Inline colour [Text.escapeControl t] (Text.escapeControl t) :=
  .plain colour (Text.escapeControl_not_control t)

theorem Inline.number (colour : Bool) (n : Nat) : Inline colour [toString n] (toString n) := by
  refine .plain colour fun d member => ?_
  rw [Nat.toString_eq_ofList_toDigits,String.toList_ofList] at member
  exact Text.toDigits_not_control (by decide) (by decide) n d member

theorem Inline.padRight (width : Nat) (inline : Inline colour ts s) :
    Inline colour ts (Text.padRight width s) := by
  have blanks : Inline colour [] (String.ofList (List.replicate (width - s.length) ' ')) := by
    refine (Inline.plain colour fun d member => ?_).bare
    rw [String.toList_ofList] at member
    cases List.eq_of_mem_replicate member
    decide
  have both := inline.append blanks
  rwa [List.append_nil] at both

-- Texts of the program itself, shown or between what is shown.
theorem Inline.word (colour : Bool) (s : String) (none : s.toList.any Unicode.isControl = false) :
    Inline colour [s] s :=
  .plain colour (Text.none_control none)

theorem Inline.between (colour : Bool) (s : String) (none : s.toList.any Unicode.isControl = false) :
    Inline colour [] s :=
  (Inline.word colour s none).bare

theorem Inline.intercalate {sep : String} (between : Inline colour [] sep)
    (each : ∀ t ∈ ts, Inline colour [t] t) : Inline colour ts (sep.intercalate ts) := by
  induction ts with
  | nil =>
    rw [String.intercalate_nil]
    exact ⟨trivial,nofun⟩
  | cons t ts ih =>
    have first := each t List.mem_cons_self
    have others := ih fun u member => each u (List.mem_cons_of_mem _ member)
    cases ts with
    | nil =>
      rw [String.intercalate_singleton]
      exact first
    | cons u ts =>
      rw [String.intercalate_cons_cons]
      exact (first.append between).append others

theorem Inline.wrap (p : Paint) (inline : Inline true ts s) : Inline true ts (p.wrap s) := by
  have escape : Inline true [] "\x1b" := ⟨trivial,List.forall_mem_singleton.mpr fun _ => ⟨rfl,rfl⟩⟩
  have start : Inline true [] "\x1b[" := escape.append (.between true "[" (by decide))
  have codes : Inline true [] (";".intercalate (p.codes.map toString)) := by
    refine (Inline.intercalate (.between true ";" (by decide)) fun t member => ?_).bare
    obtain ⟨n,_,rfl⟩ := List.mem_map.mp member
    exact .number true n
  have stop := Inline.between true "m" (by decide)
  have reset : Inline true [] "\x1b[0m" := escape.append (.between true "[0m" (by decide))
  have whole := (((start.append codes).append stop).append inline).append reset
  rwa [List.append_nil] at whole

theorem Inline.paint (st : Report.LineStyle) (p : Paint) (inline : Inline st.colour ts s) :
    Inline st.colour ts (st.paint p s) := by
  unfold Report.LineStyle.paint
  split
  · rename_i colour
    rw [colour] at inline ⊢
    exact inline.wrap p
  · exact inline

end Inline

namespace Report.LineStyle

section Parts
variable (st : LineStyle)

theorem blank : Inline st.colour [] " " := .between st.colour " " (by decide)

theorem ruleColumn_shows (rule : String) :
    Inline st.colour [Text.escapeControl rule] (st.ruleColumn rule) :=
  (Inline.padRight 24 (.escaped _ rule)).paint st .dim

def tag : Severity → String
  | .error => "ERROR "
  | .warning => "WARN  "
  | .info => "INFO  "

theorem severityTag_shows (s : Severity) : Inline st.colour [tag s] (st.severityTag s) := by
  cases s <;> exact (Inline.word st.colour _ (by decide)).paint st _

-- The names of the declarations around a violation, if they are to be shown.
def scopeNames (s : Scope) : List String :=
  if st.scopes then s.className.toList ++ s.method.toList else []

theorem scopeNote_shows (s : Scope) :
    Inline st.colour ((st.scopeNames s).map Text.escapeControl) (st.scopeNote s) := by
  unfold scopeNote scopeNames
  by_cases shown : st.scopes = true
  · rw [shown,if_pos rfl]
    dsimp only
    generalize s.className.toList ++ s.method.toList = names
    have opening := Inline.between st.colour "(" (by decide)
    have closing := Inline.between st.colour ")" (by decide)
    have inside : Inline st.colour (names.map Text.escapeControl)
        ("#".intercalate (names.map Text.escapeControl)) := by
      refine (Inline.between st.colour "#" (by decide)).intercalate fun t member => ?_
      obtain ⟨name,_,rfl⟩ := List.mem_map.mp member
      exact .escaped _ name
    cases names with
    | nil => exact ⟨trivial,nofun⟩
    | cons name names =>
      have note := (blank st).append (((opening.append inside).append closing).paint st .dim)
      rwa [List.append_nil] at note
  · rw [Bool.eq_false_iff.mpr shown]
    exact ⟨trivial,nofun⟩

def configurationTexts (e : ConfigurationError) : List String :=
  ["CONFIG",Text.escapeControl e.rule,Text.escapeControl e.detail]

theorem configurationLine_shows (e : ConfigurationError) :
    Inline st.colour (configurationTexts e) (st.configurationLine e) := by
  have tag := (Inline.word st.colour "CONFIG" (by decide)).paint st .boldRed
  exact (((tag.append (blank st)).append (ruleColumn_shows st e.rule)).append (blank st)).append
    (.escaped _ e.detail)

def violationTexts (v : Violation) : List String :=
  [tag v.severity,Text.escapeControl v.file,toString v.span.startLine,toString v.span.startColumn,
    Text.escapeControl v.rule,Text.escapeControl v.message] ++
      (st.scopeNames v.scope).map Text.escapeControl

theorem violationLine_shows (v : Violation) :
    Inline st.colour (st.violationTexts v) (st.violationLine v) := by
  have colon := Inline.between st.colour ":" (by decide)
  have place := ((Inline.escaped st.colour v.file).append colon).append
    (((Inline.number st.colour v.span.startLine).append colon).append
      (.number st.colour v.span.startColumn))
  exact ((((((((severityTag_shows st v.severity).append (blank st)).append (place.paint st .blue)).append
    (blank st)).append (ruleColumn_shows st v.rule)).append (blank st)).append
      (.escaped _ v.message)).append (scopeNote_shows st v.scope))

def processingTexts (e : ProcessingError) : List String :=
  ["FAILED",Text.escapeControl e.file,Text.escapeControl e.detail]

theorem processingLine_shows (e : ProcessingError) :
    Inline st.colour (processingTexts e) (st.processingLine e) := by
  have tag := (Inline.word st.colour "FAILED" (by decide)).paint st .boldRed
  have file := (Inline.escaped st.colour e.file).paint st .blue
  have colon := Inline.between st.colour ": " (by decide)
  exact (((tag.append (blank st)).append file).append colon).append (.escaped _ e.detail)

theorem countOf_shows (n : Nat) {thing : String} (word : Inline st.colour [] thing) :
    Inline st.colour [toString n] (countOf n thing) := by
  have number := ((Inline.number st.colour n).append (blank st)).append word
  unfold countOf
  split
  · exact number.append (.between st.colour "" (by decide))
  · exact number.append (.between st.colour "s" (by decide))

def summaryTexts (r : Report) : List String :=
  [if r.hasFindings then "FAIL" else "PASS",toString r.files,toString r.violations.length,
    toString (r.processingErrors.length + r.configurationErrors.length)]

theorem summaryLine_shows (r : Report) : Inline st.colour (summaryTexts r) (st.summaryLine r) := by
  have status : Inline st.colour [if r.hasFindings then "FAIL" else "PASS"]
      (if r.hasFindings then st.paint .red "FAIL" else st.paint .green "PASS") := by
    split
    · exact (Inline.word st.colour _ (by decide)).paint st .red
    · exact (Inline.word st.colour _ (by decide)).paint st .green
  have files := countOf_shows st r.files (.between st.colour "file" (by decide))
  have violations := countOf_shows st r.violations.length (.between st.colour "violation" (by decide))
  have errors := countOf_shows st (r.processingErrors.length + r.configurationErrors.length)
    (.between st.colour "error" (by decide))
  have analyzed := Inline.between st.colour " analyzed, " (by decide)
  have comma := Inline.between st.colour ", " (by decide)
  exact ((((((status.append (blank st)).append files).append analyzed).append violations).append
    comma).append errors)

end Parts

end Report.LineStyle

section Lines
variable {colour : Bool} {ls : List String} {c : Char}

def Report.joined (ls : List String) : String := String.join (ls.map (· ++ "\n"))

open Report (joined)

theorem joined_cons (l : String) (ls : List String) :
    (joined (l :: ls)).toList = l.toList ++ '\n' :: (joined ls).toList := by
  rw [joined,List.map_cons,String.join_cons,String.toList_append,String.toList_append,List.append_assoc]
  rfl

-- Lines of which none holds a line end are what their text is split into at its line ends.
theorem split_joined (inside : ∀ l ∈ ls, '\n' ∉ l.toList) :
    (joined ls).toList.splitOn '\n' = ls.map String.toList ++ [[]] := by
  have between : (joined ls).toList = ['\n'].intercalate (ls.map String.toList ++ [[]]) := by
    clear inside
    induction ls with
    | nil => rfl
    | cons l ls ih =>
      rw [joined_cons,ih,List.map_cons,List.cons_append,List.intercalate_cons_of_ne_nil (by simp)]
      simp
  rw [between,List.splitOn_intercalate '\n' ?_ (by simp)]
  intro part member
  rcases List.mem_append.mp member with line | last
  · obtain ⟨l,among,rfl⟩ := List.mem_map.mp line
    exact inside l among
  · cases List.mem_singleton.mp last
    exact List.not_mem_nil

theorem count_joined (inside : ∀ l ∈ ls, '\n' ∉ l.toList) :
    (joined ls).toList.count '\n' = ls.length := by
  induction ls with
  | nil => rfl
  | cons l ls ih =>
    have none := List.count_eq_zero.mpr (inside l List.mem_cons_self)
    have rest := ih fun m member => inside m (List.mem_cons_of_mem _ member)
    rw [joined_cons,List.count_append,List.count_cons_self,none,rest,List.length_cons,Nat.zero_add]

theorem mem_joined (member : c ∈ (joined ls).toList) : c = '\n' ∨ ∃ l ∈ ls, c ∈ l.toList := by
  induction ls with
  | nil => cases member
  | cons l ls ih =>
    rw [joined_cons,List.mem_append,List.mem_cons] at member
    rcases member with here | rfl | later
    · exact .inr ⟨l,List.mem_cons_self,here⟩
    · exact .inl rfl
    · exact (ih later).imp_right fun ⟨m,among,inside⟩ => ⟨m,List.mem_cons_of_mem _ among,inside⟩

end Lines

namespace Report
open LineStyle

-- One line for each finding, in order and showing its texts, then an empty line and the summary.
-- Nothing else ends a line, and without colours there are no other control characters.
structure WrittenAs (st : LineStyle) (r : Report) (text : String) : Prop where
  lines : ∃ configuration violations processing summary,
    text.toList.splitOn '\n' =
      (configuration ++ violations ++ processing ++ ["",summary]).map String.toList ++ [[]] ∧
    List.Forall₂ (fun e line => Shows (configurationTexts e) line) r.configurationErrors configuration ∧
    List.Forall₂ (fun v line => Shows (st.violationTexts v) line) r.violations violations ∧
    List.Forall₂ (fun e line => Shows (processingTexts e) line) r.processingErrors processing ∧
    Shows (summaryTexts r) summary
  newlines : text.toList.count '\n' =
    r.configurationErrors.length + r.violations.length + r.processingErrors.length + 2
  control : ∀ c ∈ text.toList, Unicode.isControl c = true → c = '\n' ∨ (st.colour = true ∧ c = '\x1b')

section Written
variable (st : LineStyle) (r : Report)

theorem lines_inline : ∀ l ∈ r.lines st, ∃ ts, Inline st.colour ts l := by
  intro l member
  simp only [Report.lines,List.mem_append,List.mem_map,List.mem_cons,List.not_mem_nil,or_false] at member
  rcases member with ((⟨e,_,rfl⟩ | ⟨v,_,rfl⟩) | ⟨e,_,rfl⟩) | rfl | rfl
  · exact ⟨_,configurationLine_shows st e⟩
  · exact ⟨_,violationLine_shows st v⟩
  · exact ⟨_,processingLine_shows st e⟩
  · exact ⟨_,.between st.colour "" (by decide)⟩
  · exact ⟨_,summaryLine_shows st r⟩

theorem each_shown {α : Type} {texts : α → List String} {line : α → String}
    (each : ∀ a, Inline st.colour (texts a) (line a)) (as : List α) :
    List.Forall₂ (fun a l => Shows (texts a) l) as (as.map line) :=
  List.forall₂_map_right_iff.mpr (List.forall₂_same.mpr fun a _ => (each a).shows)

theorem render_written : WrittenAs st r (Format.text.render st r) := by
  have inside : ∀ l ∈ r.lines st, '\n' ∉ l.toList := fun l member =>
    (lines_inline st r l member).elim fun _ inline => inline.newline_not_mem
  refine ⟨⟨_,_,_,_,split_joined inside,each_shown st (configurationLine_shows st) _,
    each_shown st (violationLine_shows st) _,each_shown st (processingLine_shows st) _,
    (summaryLine_shows st r).shows⟩,?_,fun c member control => ?_⟩
  · refine (count_joined inside).trans ?_
    simp only [Report.lines,List.length_append,List.length_map,List.length_cons,List.length_nil]
  · rcases mem_joined member with rfl | ⟨l,among,here⟩
    · exact .inl rfl
    · obtain ⟨_,inline⟩ := lines_inline st r l among
      exact .inr (inline.control c here control)

end Written

end Report

end TreeAudit
