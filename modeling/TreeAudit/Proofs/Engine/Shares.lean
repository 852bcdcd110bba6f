import Mathlib.Data.List.Forall2
import TreeAudit.Engine.Analysis
import TreeAudit.Languages

-- What the analysis of one file is made of. A file that gives no tree has one error and nothing else;
-- over a tree each rule has a share of its own in the outcome, and the outcome is the shares put together
-- in the order of the rules.
namespace TreeAudit

-- What one rule leaves behind on one file: nothing if the file is not in its language, and else what it
-- found, the note that it is broken, or one error.
inductive Share
  | apart
  | found (vs : List Violation)
  | broken (b : BrokenRule)
  | error (e : ProcessingError)
deriving DecidableEq

namespace Share

def violations : Share → List Violation
  | found vs => vs
  | _ => []

def brokenRules : Share → List BrokenRule
  | broken b => [b]
  | _ => []

def errors : Share → List ProcessingError
  | error e => [e]
  | _ => []

end Share

-- What a rule at a place leaves behind by the way in which it ends. What it had found before it failed or
-- broke off does not show.
inductive Rule.Leaves (l : Language) (t : Tree) (file : String) (place : Nat) (r : Rule) :
    List Finding × RuleEnding → Share → Prop
  | found : Leaves l t file place r (findings,.done) (.found (findings.map (r.violation l t)))
  | broken : f.isConfiguration = true →
      Leaves l t file place r (findings,.failed (.query f)) (.broken ⟨place,f.message⟩)
  | failed : (∀ g, f = .query g → g.isConfiguration = false) →
      Leaves l t file place r (findings,.failed f)
        (.error (.ofChain file s!"rule '{r.id}': {f.message}" f.causes))
  | crashed : Leaves l t file place r (findings,.crashed c)
      (.error { file, message := s!"rule '{r.id}' panicked", cause := some c.message })

inductive Rule.EndsAs (l : Language) (t : Tree) (file : String) (place : Nat) (r : Rule) : Share → Prop
  | apart : r.language ≠ l.id → EndsAs l t file place r .apart
  | ran : r.language = l.id → r.Leaves l t file place (r.apply l t) s → EndsAs l t file place r s

def FileOutcome.gain (o : FileOutcome) (s : Share) : FileOutcome where
  report := { o.report with
    violations := o.report.violations ++ s.violations
    processingErrors := o.report.processingErrors ++ s.errors }
  broken := o.broken ++ s.brokenRules

section Rules
variable {l : Language} {t : Tree} {file : String} {place : Nat} {r : Rule} {a b : Share}
  {run : List Finding × RuleEnding} {o : FileOutcome}

-- The ways to end exclude each other.
theorem Rule.Leaves.unique (one : r.Leaves l t file place run a) (two : r.Leaves l t file place run b) :
    a = b := by
  cases one with
  | found =>
    cases two with
    | found => rfl
  | broken fault =>
    cases two with
    | broken _ => rfl
    | failed sound =>
      rw [sound _ rfl] at fault
      cases fault
  | failed sound =>
    cases two with
    | broken fault =>
      rw [sound _ rfl] at fault
      cases fault
    | failed _ => rfl
  | crashed =>
    cases two with
    | crashed => rfl

theorem Rule.EndsAs.unique (one : r.EndsAs l t file place a) (two : r.EndsAs l t file place b) : a = b := by
  cases one with
  | apart other =>
    cases two with
    | apart _ => rfl
    | ran same _ => exact absurd same other
  | ran same left =>
    cases two with
    | apart other => exact absurd same other
    | ran _ right => exact left.unique right

theorem gain_apart (o : FileOutcome) : o.gain .apart = o := by
  simp [FileOutcome.gain,Share.violations,Share.errors,Share.brokenRules]

theorem gain_found (o : FileOutcome) (vs : List Violation) :
    o.gain (.found vs) = { o with report := o.report.append { violations := vs } } := by
  simp [FileOutcome.gain,Report.append,Share.violations,Share.errors,Share.brokenRules]

theorem gain_broken (o : FileOutcome) (b : BrokenRule) :
    o.gain (.broken b) = { o with broken := o.broken ++ [b] } := by
  simp [FileOutcome.gain,Share.violations,Share.errors,Share.brokenRules]

theorem gain_error (o : FileOutcome) (e : ProcessingError) : o.gain (.error e) = o.addError e := by
  simp [FileOutcome.gain,FileOutcome.addError,Report.addProcessingError,Share.violations,Share.errors,
    Share.brokenRules]

-- One step of the loop over the rules.
theorem addResult_gains (l : Language) (t : Tree) (file : String) (place : Nat) (r : Rule)
    (o : FileOutcome) :
    ∃ s, r.Leaves l t file place (r.apply l t) s ∧ o.addResult l t file place r = o.gain s := by
  unfold FileOutcome.addResult
  split
  · rename_i findings ran
    rw [ran]
    exact ⟨_,.found,(gain_found o _).symm⟩
  · rename_i findings f ran
    rw [ran]
    split
    · rename_i fault
      cases f with
      | query f => exact ⟨_,.broken fault,(gain_broken o _).symm⟩
      | other message causes => cases fault
    · rename_i sound
      have fine : ∀ g, f = .query g → g.isConfiguration = false := by
        rintro g rfl
        exact Bool.eq_false_iff.mpr sound
      exact ⟨_,.failed fine,(gain_error o _).symm⟩
  · rename_i findings c ran
    rw [ran]
    exact ⟨_,.crashed,(gain_error o _).symm⟩

theorem applyRules_gains (l : Language) (t : Tree) (file : String) (rules : List Rule) (place : Nat)
    (o : FileOutcome) : ∃ shares,
      List.Forall₂ (fun r s => Rule.EndsAs l t file r.2 r.1 s) (rules.zipIdx place) shares ∧
      Engine.applyRules l t file o place rules = shares.foldl FileOutcome.gain o := by
  induction rules generalizing place o with
  | nil => exact ⟨[],.nil,rfl⟩
  | cons r rules ih =>
    rw [Engine.applyRules,List.zipIdx_cons]
    by_cases same : r.language = l.id
    · obtain ⟨s,leaves,gained⟩ := addResult_gains l t file place r o
      obtain ⟨shares,later,rest⟩ := ih (place + 1) (o.gain s)
      refine ⟨s :: shares,.cons (.ran same leaves) later,?_⟩
      rw [if_pos same,gained]
      exact rest
    · obtain ⟨shares,later,rest⟩ := ih (place + 1) o
      refine ⟨.apart :: shares,.cons (.apart same) later,?_⟩
      rw [if_neg same,List.foldl_cons,gain_apart]
      exact rest

-- Shares put together keep the order of the rules in each part of the outcome.
theorem foldl_gain (shares : List Share) (o : FileOutcome) : shares.foldl FileOutcome.gain o =
    { report := { o.report with
        violations := o.report.violations ++ shares.flatMap Share.violations
        processingErrors := o.report.processingErrors ++ shares.flatMap Share.errors }
      broken := o.broken ++ shares.flatMap Share.brokenRules } := by
  induction shares generalizing o with
  | nil => simp
  | cons s shares ih =>
    rw [List.foldl_cons,ih]
    simp [FileOutcome.gain]

end Rules

namespace Engine

-- Why a file gives no tree, with the error that says so.
inductive Refuses (e : Engine) (input : SourceInput) : ProcessingError → Prop
  | noLanguage : e.languageFor input = none →
      Refuses e input { file := input.file, message := "no language handler for this file" }
  | noParser : e.languageFor input = some l → l.parser = .error f →
      Refuses e input { file := input.file, message := f.message }
  | failed : e.languageFor input = some l → l.parser = .ok parse →
      parse input.source input.file = .failed f →
      Refuses e input { file := input.file, message := f.message }
  | crashed : e.languageFor input = some l → l.parser = .ok parse →
      parse input.source input.file = .crashed c →
      Refuses e input { file := input.file, message := "parser panicked", cause := some c.message }

inductive Parses (e : Engine) (input : SourceInput) : Language → Tree → Prop
  | tree : e.languageFor input = some l → l.parser = .ok parse → parse input.source input.file = .tree t →
      Parses e input l t

variable {e : Engine} {input : SourceInput} {error : ProcessingError} {l : Language} {t : Tree}

theorem refuses_or_parses (e : Engine) (input : SourceInput) :
    (∃ error, e.Refuses input error) ∨ ∃ l t, e.Parses input l t := by
  cases known : e.languageFor input with
  | none => exact .inl ⟨_,.noLanguage known⟩
  | some l =>
    cases ready : l.parser with
    | error f => exact .inl ⟨_,.noParser known ready⟩
    | ok parse =>
      cases parsed : parse input.source input.file with
      | tree t => exact .inr ⟨l,t,.tree known ready parsed⟩
      | failed f => exact .inl ⟨_,.failed known ready parsed⟩
      | crashed c => exact .inl ⟨_,.crashed known ready parsed⟩

theorem analyze_refused (refuses : e.Refuses input error) :
    error.file = input.file ∧ e.analyze input = .failed error := by
  cases refuses with
  | noLanguage known => simp [analyze,known]
  | noParser known ready => simp [analyze,known,ready]
  | failed known ready parsed => simp [analyze,known,ready,parsed]
  | crashed known ready parsed => simp [analyze,known,ready,parsed]

theorem analyze_parsed (parses : e.Parses input l t) : e.analyze input =
    applyRules l t input.file { report := Report.empty.addFile } 0 e.rules := by
  cases parses with
  | tree known ready parsed => simp [analyze,known,ready,parsed]

-- What the analysis of any file comes to.
theorem analyze_exact (e : Engine) (input : SourceInput) :
    ((∃ error, e.Refuses input error) ∨ ∃ l t, e.Parses input l t) ∧
    (∀ error, e.Refuses input error → error.file = input.file ∧
      e.analyze input = { report := { processingErrors := [error], files := 0 }, broken := [] }) ∧
    ∀ l t, e.Parses input l t → ∃ shares,
      List.Forall₂ (fun r s => r.1.EndsAs l t input.file r.2 s ∧
        ∀ other, r.1.EndsAs l t input.file r.2 other → other = s) e.rules.zipIdx shares ∧
      e.analyze input =
        { report := {
            violations := shares.flatMap Share.violations
            processingErrors := shares.flatMap Share.errors
            configurationErrors := []
            files := 1 }
          broken := shares.flatMap Share.brokenRules } := by
  refine ⟨refuses_or_parses e input,?_,?_⟩
  · intro error refuses
    exact analyze_refused refuses
  · intro l t parses
    obtain ⟨shares,ends,gained⟩ :=
      applyRules_gains l t input.file e.rules 0 { report := Report.empty.addFile }
    refine ⟨shares,?_,?_⟩
    · apply ends.imp
      intro r s ends
      exact ⟨ends,fun other too => too.unique ends⟩
    · rw [analyze_parsed parses,gained,foldl_gain]
      simp [Report.empty,Report.addFile]

-- A rule that breaks off and one that is at fault leave their neighbour alone.
example :
    let rule := fun id ending =>
      ({ id, language := "java", severity := .warning, apply := fun _ _ => ([⟨0,"here"⟩],ending) } : Rule)
    let e : Engine := { registry := .builtIn, rules := [rule "a" (.crashed .withoutText),rule "b" .done,
      rule "c" (.failed (.query (.unknownFunction "f")))] }
    let o := e.analyze { file := "A.java", source := "" }
    o.report.violations.map (·.rule) = ["b"] ∧ o.report.processingErrors.map (·.message) =
      ["rule 'a' panicked"] ∧ o.broken = [⟨2,"unknown function 'f'"⟩] := by
  decide +kernel

end Engine

end TreeAudit
