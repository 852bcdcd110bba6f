import TreeAudit.Proofs.Report.Columns

-- What tells two reports apart. A text that is escaped shows in its line as nothing else does, so reports that differ
-- in it alone are written otherwise; only the column of rules takes in blanks at the end of a rule's id.
namespace TreeAudit.Report
open Text (escapeControl escapeControl_injective)

def inserted (as : List α) (i : Nat) (a : α) : List α := as.take i ++ a :: as.drop i

-- A finding of a report, with one of its texts left open: a rule's id, a file's name or a message.
inductive Slot
  | brokenRule (e : ConfigurationError)
  | brokenDetail (e : ConfigurationError)
  | rule (v : Violation)
  | file (v : Violation)
  | message (v : Violation)
  | failedFile (e : ProcessingError)
  | failedMessage (e : ProcessingError)
  | failedCause (e : ProcessingError)

-- How serious a violation is and where it stands; errors have no such rating.
structure Rating where
  severity : Severity
  span : Span

def Rating.Same (k l : Rating) : Prop :=
  k.severity = l.severity ∧ k.span.startLine = l.span.startLine ∧ k.span.startColumn = l.span.startColumn

def rated (v : Violation) (k : Rating) : Violation := { v with severity := k.severity, span := k.span }

namespace Slot

def line (st : LineStyle) (k : Rating) : Slot → String → String
  | .brokenRule e, t => st.configurationLine { e with rule := t }
  | .brokenDetail e, t => st.configurationLine { e with detail := t }
  | .rule v, t => st.violationLine { rated v k with rule := t }
  | .file v, t => st.violationLine { rated v k with file := t }
  | .message v, t => st.violationLine { rated v k with message := t }
  | .failedFile e, t => st.processingLine { e with file := t }
  | .failedMessage e, t => st.processingLine { e with message := t }
  | .failedCause e, t => st.processingLine { e with cause := some t }

-- The report with that finding among those of its kind.
def fill (r : Report) (i : Nat) (k : Rating) : Slot → String → Report
  | .brokenRule e, t => { r with configurationErrors := inserted r.configurationErrors i { e with rule := t } }
  | .brokenDetail e, t => { r with configurationErrors := inserted r.configurationErrors i { e with detail := t } }
  | .rule v, t => { r with violations := inserted r.violations i { rated v k with rule := t } }
  | .file v, t => { r with violations := inserted r.violations i { rated v k with file := t } }
  | .message v, t => { r with violations := inserted r.violations i { rated v k with message := t } }
  | .failedFile e, t => { r with processingErrors := inserted r.processingErrors i { e with file := t } }
  | .failedMessage e, t => { r with processingErrors := inserted r.processingErrors i { e with message := t } }
  | .failedCause e, t => { r with processingErrors := inserted r.processingErrors i { e with cause := some t } }

-- Ids of rules stand in a column that is filled up with blanks.
def Alike (k l : Rating) : Slot → String → String → Prop
  | .brokenRule _, s, t => RuleAlike s t
  | .rule _, s, t => k.Same l ∧ RuleAlike s t
  | .file _, s, t | .message _, s, t => k.Same l ∧ s = t
  | _, s, t => s = t

end Slot

section Lines
variable {st : LineStyle} {k l : Rating} {s t : String}

theorem ruleColumn_inj : st.ruleColumn s = st.ruleColumn t ↔ RuleAlike s t :=
  (LineStyle.paint_inj .dim).trans padded_inj

theorem detail_inj (e : ProcessingError) :
    { e with message := s }.detail = { e with message := t }.detail ↔ s = t := by
  unfold ProcessingError.detail
  dsimp only
  split
  · rw [String.append_left_inj,String.append_left_inj]
  · exact Iff.rfl

theorem Slot.line_inj (x : Slot) : x.line st k s = x.line st l t ↔ x.Alike k l s t := by
  cases x with
  | brokenRule e =>
    change st.configurationLine _ = st.configurationLine _ ↔ _
    unfold LineStyle.configurationLine
    rw [String.append_left_inj,String.append_left_inj,String.append_right_inj]
    exact ruleColumn_inj
  | brokenDetail e =>
    change st.configurationLine _ = st.configurationLine _ ↔ _
    unfold LineStyle.configurationLine
    rw [String.append_right_inj]
    exact escapeControl_injective.eq_iff
  | rule v =>
    change st.violationLine _ = st.violationLine _ ↔ _
    rw [LineStyle.violationLine_parts,LineStyle.violationLine_parts,LineStyle.severityTag_cut]
    dsimp only [rated]
    rw [String.append_right_inj,LineStyle.place_then,String.append_left_inj,ruleColumn_inj,← and_assoc]
    exact Iff.rfl
  | file v =>
    change st.violationLine _ = st.violationLine _ ↔ _
    rw [LineStyle.violationLine_parts,LineStyle.violationLine_parts,LineStyle.severityTag_cut]
    dsimp only [rated]
    rw [String.append_right_inj,String.append_left_inj,LineStyle.paint_inj,LineStyle.place_cut,
      and_comm (a := s = t),← and_assoc]
    exact Iff.rfl
  | message v =>
    change st.violationLine _ = st.violationLine _ ↔ _
    rw [LineStyle.violationLine_parts,LineStyle.violationLine_parts,LineStyle.severityTag_cut]
    dsimp only [rated]
    rw [String.append_right_inj,LineStyle.place_then,String.append_right_inj,String.append_right_inj,
      String.append_left_inj,escapeControl_injective.eq_iff,← and_assoc]
    exact Iff.rfl
  | failedFile e =>
    have detail : { e with file := s }.detail = { e with file := t }.detail := rfl
    change st.processingLine _ = st.processingLine _ ↔ _
    unfold LineStyle.processingLine
    rw [detail,String.append_left_inj,String.append_left_inj,String.append_right_inj,LineStyle.paint_inj]
    exact escapeControl_injective.eq_iff
  | failedMessage e =>
    change st.processingLine _ = st.processingLine _ ↔ _
    unfold LineStyle.processingLine
    rw [String.append_right_inj,escapeControl_injective.eq_iff]
    exact detail_inj e
  | failedCause e =>
    change st.processingLine _ = st.processingLine _ ↔ _
    unfold LineStyle.processingLine
    rw [String.append_right_inj,escapeControl_injective.eq_iff]
    exact String.append_right_inj _

theorem length_inserted (as : List α) (i : Nat) (a : α) : (inserted as i a).length = as.length + 1 := by
  rw [inserted,List.length_append,List.length_cons,← Nat.add_assoc,← List.length_append,List.take_append_drop]

theorem isEmpty_inserted (as : List α) (i : Nat) (a : α) : (inserted as i a).isEmpty = false := by
  rw [List.isEmpty_eq_false_iff_exists_mem]
  exact ⟨a,List.mem_append_right _ List.mem_cons_self⟩

theorem map_inserted (f : α → β) (as : List α) (i : Nat) (a : α) :
    (inserted as i a).map f = (as.take i).map f ++ f a :: (as.drop i).map f := by
  rw [inserted,List.map_append,List.map_cons]

-- The summary counts findings and shows none of their texts.
theorem Slot.summary_fill (r : Report) (i : Nat) (x : Slot) :
    st.summaryLine (x.fill r i k s) = st.summaryLine (x.fill r i l t) := by
  cases x <;> simp only [LineStyle.summaryLine,fill,hasFindings,hasErrors,isEmpty_inserted,length_inserted]

-- Only one line depends on the finding that is filled in.
theorem Slot.lines_fill (st : LineStyle) (r : Report) (i : Nat) (x : Slot) :
    ∃ before after, ∀ k t, (x.fill r i k t).lines st = before ++ x.line st k t :: after := by
  obtain ⟨total,summary⟩ : ∃ total, ∀ k t, st.summaryLine (x.fill r i k t) = total :=
    ⟨st.summaryLine (x.fill r i ⟨.info,default⟩ ""),fun _ _ => Slot.summary_fill r i x⟩
  cases x with
  | brokenRule e | brokenDetail e =>
    refine ⟨(r.configurationErrors.take i).map st.configurationLine,
      (r.configurationErrors.drop i).map st.configurationLine ++ r.violations.map st.violationLine ++
        r.processingErrors.map st.processingLine ++ ["",total],fun k t => ?_⟩
    rw [lines,summary k t,fill,map_inserted]
    simp only [List.append_assoc,List.cons_append,line]
  | rule v | file v | message v =>
    refine ⟨r.configurationErrors.map st.configurationLine ++ (r.violations.take i).map st.violationLine,
      (r.violations.drop i).map st.violationLine ++ r.processingErrors.map st.processingLine ++ ["",total],
      fun k t => ?_⟩
    rw [lines,summary k t,fill,map_inserted]
    simp only [List.append_assoc,List.cons_append,line]
  | failedFile e | failedMessage e | failedCause e =>
    refine ⟨r.configurationErrors.map st.configurationLine ++ r.violations.map st.violationLine ++
      (r.processingErrors.take i).map st.processingLine,
      (r.processingErrors.drop i).map st.processingLine ++ ["",total],fun k t => ?_⟩
    rw [lines,summary k t,fill,map_inserted]
    simp only [List.append_assoc,List.cons_append,line]

-- Lines of reports hold no line ends, so the text of a report tells them.
theorem lines_of_render {r q : Report} (same : Format.text.render st r = Format.text.render st q) :
    r.lines st = q.lines st := by
  have inside : ∀ (r : Report), ∀ l ∈ r.lines st, '\n' ∉ l.toList := fun r l member =>
    (lines_inline st r l member).elim fun _ inline => inline.newline_not_mem
  have split := congrArg (fun text => text.toList.splitOn '\n') same
  have first := split_joined (inside r)
  have second := split_joined (inside q)
  have parts : (r.lines st).map String.toList ++ [[]] = (q.lines st).map String.toList ++ [[]] :=
    first.symm.trans (split.trans second)
  exact List.map_injective_iff.mpr (fun _ _ => String.toList_inj.mp) (List.append_cancel_right parts)

theorem render_inj (st : LineStyle) (r q : Report) :
    Format.text.render st r = Format.text.render st q ↔ r.lines st = q.lines st :=
  ⟨lines_of_render,fun same => congrArg joined same⟩

theorem Slot.render_fill_inj (st : LineStyle) (r : Report) (i : Nat) (k l : Rating) (x : Slot) (s t : String) :
    Format.text.render st (x.fill r i k s) = Format.text.render st (x.fill r i l t) ↔ x.Alike k l s t := by
  obtain ⟨before,after,written⟩ := x.lines_fill st r i
  rw [render_inj,written,written,List.append_cancel_left_eq,List.cons_eq_cons,and_iff_left rfl,x.line_inj]

end Lines

-- Escapes can be undone, follow the text they are made of and hold no control character. So a report tells each name
-- of a file and each message, as long as it is the only text in question, wherever a violation stands, and each id of
-- a rule but for blanks that fill its column; in colour its lines tell all of them at once.
theorem escaped_texts_apart :
    (∀ s, Text.unescape (escapeControl s) = s) ∧ Function.Injective escapeControl ∧
      (∀ s t, escapeControl (s ++ t) = escapeControl s ++ escapeControl t) ∧
      (∀ s, (escapeControl s).toList.any Unicode.isControl = false) ∧
      (∀ (st : LineStyle) (r : Report) (i : Nat) (k l : Rating) (x : Slot) (s t : String),
        Format.text.render st (x.fill r i k s) = Format.text.render st (x.fill r i l t) ↔ x.Alike k l s t) ∧
      (∀ (st : LineStyle) (r q : Report),
        Format.text.render st r = Format.text.render st q ↔ r.lines st = q.lines st) ∧
      (∀ (scopes : Bool) (v w : Violation),
        LineStyle.violationLine ⟨true,scopes⟩ v = LineStyle.violationLine ⟨true,scopes⟩ w ↔
          v.severity = w.severity ∧ (v.file = w.file ∧ v.span.startLine = w.span.startLine ∧
            v.span.startColumn = w.span.startColumn) ∧ RuleAlike v.rule w.rule ∧ v.message = w.message ∧
              LineStyle.scopeNote ⟨true,scopes⟩ v.scope = LineStyle.scopeNote ⟨true,scopes⟩ w.scope) ∧
      (∀ (scopes : Bool) (e f : ProcessingError),
        LineStyle.processingLine ⟨true,scopes⟩ e = LineStyle.processingLine ⟨true,scopes⟩ f ↔
          e.file = f.file ∧ e.detail = f.detail) ∧
      ∀ (scopes : Bool) (e f : ConfigurationError),
        LineStyle.configurationLine ⟨true,scopes⟩ e = LineStyle.configurationLine ⟨true,scopes⟩ f ↔
          RuleAlike e.rule f.rule ∧ e.detail = f.detail := by
  refine ⟨Text.unescape_escapeControl,escapeControl_injective,Text.escapeControl_append,fun s => ?_,
    Slot.render_fill_inj,render_inj,LineStyle.violationLine_coloured,LineStyle.processingLine_coloured,
    LineStyle.configurationLine_coloured⟩
  rw [List.any_eq_false]
  exact fun c member => Bool.eq_false_iff.mp (Text.escapeControl_not_control s c member)

-- A blank at the end of a rule's id is one of those that fill its column; and without colours, what stands between
-- texts can stand in them as well.
theorem blanks_look_alike :
    let v : Violation := ⟨"r",.warning,"m","A.java",⟨0,1,1,1,1,2⟩,{}⟩
    let w : Violation := { v with rule := "r " }
    let a : Violation := { v with file := "a", message := "b:1:1 " ++ Text.padRight 24 "r" ++ " c" }
    let b : Violation := { v with file := "a:1:1 " ++ Text.padRight 24 "r" ++ " b", message := "c" }
    (v.rule ≠ w.rule ∧ Format.text.render {} { violations := [v] } = Format.text.render {} { violations := [w] }) ∧
      a.file ≠ b.file ∧ a.message ≠ b.message ∧
        Format.text.render {} { violations := [a] } = Format.text.render {} { violations := [b] } := by
  decide +kernel

end TreeAudit.Report
