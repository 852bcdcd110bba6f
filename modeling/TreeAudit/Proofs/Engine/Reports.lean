import Mathlib.Algebra.GroupWithZero.Nat
import TreeAudit.Engine.Run
import TreeAudit.Proofs.Engine.Shares

-- How the report of a run is put together. Each rule adds its share on each file; the shares are strung
-- together by files and then by rules. The rules at fault are gone through once more for the whole run,
-- and of each place only the first mention is kept.
namespace TreeAudit

theorem Report.foldl_append (rs : List Report) (r : Report) : rs.foldl Report.append r =
    { violations := r.violations ++ rs.flatMap (·.violations)
      processingErrors := r.processingErrors ++ rs.flatMap (·.processingErrors)
      configurationErrors := r.configurationErrors ++ rs.flatMap (·.configurationErrors)
      files := r.files + (rs.map (·.files)).sum } := by
  induction rs generalizing r with
  | nil => simp
  | cons s rs ih =>
    rw [List.foldl_cons,ih]
    simp [Report.append,Nat.add_assoc]

-- The share with another place in it.
def Share.moved (place : Nat) : Share → Share
  | broken b => broken { b with place }
  | s => s

namespace Engine

-- What a rule at a place adds on one task. A file that is not read or gives no tree gives it no occasion.
inductive Adds (e : Engine) (r : Rule) (place : Nat) : FileTask → Share → Prop
  | unread : Adds e r place (.error problem) .apart
  | refused : e.Refuses input error → Adds e r place (.ok input) .apart
  | parsed : e.Parses input l t → r.EndsAs l t input.file place s → Adds e r place (.ok input) s

variable {e : Engine} {r : Rule} {place : Nat} {task : FileTask} {input : SourceInput} {a b : Share}
  {error : ProcessingError} {l k : Language} {t u : Tree}

theorem Parses.unique (one : e.Parses input l t) (two : e.Parses input k u) : l = k ∧ t = u := by
  obtain ⟨known,ready,parsed⟩ := one
  obtain ⟨again,prepared,read⟩ := two
  cases Option.some.inj (known.symm.trans again)
  cases Except.ok.inj (ready.symm.trans prepared)
  cases Parsing.tree.inj (parsed.symm.trans read)
  exact ⟨rfl,rfl⟩

theorem Parses.not_refuses (parses : e.Parses input l t) (refuses : e.Refuses input error) : False := by
  obtain ⟨known,ready,parsed⟩ := parses
  cases refuses with
  | noLanguage unknown =>
    rw [known] at unknown
    cases unknown
  | noParser again missing =>
    cases Option.some.inj (known.symm.trans again)
    rw [ready] at missing
    cases missing
  | failed again prepared read | crashed again prepared read =>
    cases Option.some.inj (known.symm.trans again)
    cases Except.ok.inj (ready.symm.trans prepared)
    rw [parsed] at read
    cases read

theorem Adds.unique (one : e.Adds r place task a) (two : e.Adds r place task b) : a = b := by
  cases one with
  | unread =>
    cases two with
    | unread => rfl
  | refused refuses =>
    cases two with
    | refused _ => rfl
    | parsed parses _ => exact (parses.not_refuses refuses).elim
  | parsed parses ends =>
    cases two with
    | refused refuses => exact (parses.not_refuses refuses).elim
    | parsed again too =>
      obtain ⟨rfl,rfl⟩ := parses.unique again
      exact ends.unique too

-- Whether a file gives a tree does not depend on the rules.
theorem Refuses.with_rules (refuses : e.Refuses input error) (rules : List Rule) :
    ({ e with rules } : Engine).Refuses input error := by
  cases refuses with
  | noLanguage known => exact .noLanguage known
  | noParser known ready => exact .noParser known ready
  | failed known ready parsed => exact .failed known ready parsed
  | crashed known ready parsed => exact .crashed known ready parsed

theorem Parses.with_rules (parses : e.Parses input l t) (rules : List Rule) :
    ({ e with rules } : Engine).Parses input l t := by
  obtain ⟨known,ready,parsed⟩ := parses
  exact .tree known ready parsed

-- Every rule adds one share on each task, and with another place for the rule it is the same but for the
-- place that it names.
theorem adds_total (e : Engine) (r : Rule) (place : Nat) (task : FileTask) : ∃ s, e.Adds r place task s := by
  cases task with
  | error problem => exact ⟨_,.unread⟩
  | ok input =>
    rcases refuses_or_parses e input with ⟨error,refuses⟩ | ⟨l,t,parses⟩
    · exact ⟨_,.refused refuses⟩
    · by_cases same : r.language = l.id
      · obtain ⟨s,leaves,_⟩ := addResult_gains l t input.file place r {}
        exact ⟨s,.parsed parses (.ran same leaves)⟩
      · exact ⟨_,.parsed parses (.apart same)⟩

theorem Adds.moved (adds : e.Adds r place task a) (other : Nat) : e.Adds r other task (a.moved other) := by
  cases adds with
  | unread => exact .unread
  | refused refuses => exact .refused refuses
  | parsed parses ends =>
    cases ends with
    | apart foreign => exact .parsed parses (.apart foreign)
    | ran same leaves =>
      refine .parsed parses (.ran same ?_)
      generalize r.apply _ _ = ending at leaves
      cases leaves with
      | found => exact .found
      | broken fault => exact .broken fault
      | failed sound => exact .failed sound
      | crashed => exact .crashed

theorem Adds.at_place (adds : e.Adds r place task a) : ∀ b ∈ a.brokenRules, b.place = place := by
  intro b member
  cases adds with
  | unread | refused _ => cases member
  | parsed parses ends =>
    cases ends with
    | apart _ => cases member
    | ran same leaves =>
      generalize r.apply _ _ = ending at leaves
      cases leaves with
      | broken fault => rw [List.mem_singleton.mp member]
      | found | failed _ | crashed => cases member

-- What a task comes to under any list of rules: what it is without rules, and the shares of the rules.
theorem perform_gains (e : Engine) (task : FileTask) {share : Rule → Nat → Share}
    (adds : ∀ r place, e.Adds r place task (share r place)) :
    ∃ o : FileOutcome, o.broken = [] ∧ o.report.configurationErrors = [] ∧ ∀ rules : List Rule,
      ({ e with rules } : Engine).perform task =
        (rules.zipIdx.map fun r => share r.1 r.2).foldl FileOutcome.gain o := by
  have none : ∀ o : FileOutcome, (∀ r place, e.Adds r place task .apart) → ∀ rules : List Rule,
      (rules.zipIdx.map fun r => share r.1 r.2).foldl FileOutcome.gain o = o := by
    intro o apart rules
    generalize rules.zipIdx = placed
    induction placed with
    | nil => rfl
    | cons r placed ih =>
      rw [List.map_cons,List.foldl_cons,(adds r.1 r.2).unique (apart r.1 r.2),gain_apart]
      exact ih
  cases task with
  | error problem =>
    refine ⟨.failed problem,rfl,rfl,fun rules => ?_⟩
    exact (none (.failed problem) (fun _ _ => .unread) rules).symm
  | ok input =>
    rcases refuses_or_parses e input with ⟨error,refuses⟩ | ⟨l,t,parses⟩
    · refine ⟨.failed error,rfl,rfl,fun rules => ?_⟩
      rw [none (.failed error) (fun _ _ => .refused refuses) rules]
      exact (analyze_refused (refuses.with_rules rules)).2
    · refine ⟨{ report := Report.empty.addFile },rfl,rfl,fun rules => ?_⟩
      obtain ⟨shares,ends,gained⟩ :=
        applyRules_gains l t input.file rules 0 { report := Report.empty.addFile }
      have same : List.Forall₂ Eq (rules.zipIdx.map fun r => share r.1 r.2) shares :=
        List.forall₂_map_left_iff.mpr
          (ends.imp fun r s ends => (adds r.1 r.2).unique (.parsed parses ends))
      rw [List.forall₂_eq_eq_eq] at same
      rw [same]
      exact (analyze_parsed (parses.with_rules rules)).trans gained

theorem perform_configuration (e : Engine) (task : FileTask) :
    (e.perform task).report.configurationErrors = [] := by
  choose share adds using fun r place => adds_total e r place task
  obtain ⟨o,_,none,gains⟩ := perform_gains e task adds
  have whole := gains e.rules
  rw [foldl_gain] at whole
  rw [show e.perform task = _ from whole]
  exact none

-- The report of a run, part by part.
theorem reportOf_perform (e : Engine) (tasks : List FileTask) : e.reportOf (tasks.map e.perform) =
    { violations := tasks.flatMap fun task => (e.perform task).report.violations
      processingErrors := tasks.flatMap fun task => (e.perform task).report.processingErrors
      configurationErrors := e.runErrors (tasks.map e.perform)
      files := (tasks.map fun task => (e.perform task).report.files).sum } := by
  rw [reportOf,Report.merge,List.foldl_cons,Report.foldl_append]
  simp [Report.append,Report.empty,List.flatMap_map,Function.comp_def,perform_configuration]

-- Only what is gained first to last counts of the places that were seen, not their order.
theorem newlyBroken_congr {seen also : List Nat} (same : ∀ n, n ∈ seen ↔ n ∈ also) (bs : List BrokenRule) :
    newlyBroken seen bs = newlyBroken also bs := by
  induction bs generalizing seen also with
  | nil => rfl
  | cons b bs ih =>
    have alike : seen.contains b.place = also.contains b.place := by
      rw [Bool.eq_iff_iff,List.contains_iff_mem,List.contains_iff_mem]
      exact same b.place
    rw [newlyBroken,newlyBroken,alike,ih same]
    split
    · rfl
    · refine congrArg (b :: ·) (ih fun n => ?_)
      rw [List.mem_cons,List.mem_cons,same n]

end Engine

end TreeAudit
