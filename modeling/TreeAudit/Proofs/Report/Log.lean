import Mathlib.Data.List.Induction
import Mathlib.Data.String.Basic
import TreeAudit.Proofs.Report.Fields
import TreeAudit.Report.Format

-- What a log says of a report. Results and notifications stand for its entries one by one; the table of
-- rules is kept in order of their ids, each with the level of the worst violation so far.
namespace TreeAudit.Sarif

open Json (follow_object lookup_mem)

section Rules
variable {v : Violation} {seen : List Violation} {table : List (String × Severity)} {id : String}
  {a b s : Severity}

-- A severity that a rule has been violated with, and none worse than it.
structure Worst (vs : List Violation) (id : String) (s : Severity) : Prop where
  reached : ∃ v ∈ vs, v.rule = id ∧ v.severity = s
  bounds : ∀ v ∈ vs, v.rule = id → s.rank ≤ v.severity.rank

-- The rules that are violated, in the order of their ids, each with its worst severity.
structure TableOf (vs : List Violation) (table : List (String × Severity)) : Prop where
  ascending : (table.map (·.1)).Pairwise (· < ·)
  ids : ∀ id, id ∈ table.map (·.1) ↔ id ∈ vs.map (·.rule)
  worst : ∀ id s, (id,s) ∈ table → Worst vs id s

theorem worse_eq : a.worse b = a ∨ a.worse b = b := by
  unfold Severity.worse
  split <;> simp

theorem worse_le_left : (a.worse b).rank ≤ a.rank := by
  unfold Severity.worse
  split <;> omega

theorem worse_le_right : (a.worse b).rank ≤ b.rank := by
  unfold Severity.worse
  split <;> omega

theorem id_mem (member : (id,s) ∈ table) : id ∈ table.map (·.1) := List.mem_map.mpr ⟨_,member,rfl⟩

theorem mem_ids_noteRule :
    id ∈ (noteRule v table).map (·.1) ↔ id = v.rule ∨ id ∈ table.map (·.1) := by
  induction table with
  | nil => simp [noteRule]
  | cons entry rest ih =>
    obtain ⟨other,worst⟩ := entry
    unfold noteRule
    split
    · rename_i here
      simp [here]
    · split
      · simp
      · rw [List.map_cons,List.mem_cons,ih,List.map_cons,List.mem_cons,or_left_comm]

theorem noteRule_ascending (ascending : (table.map (·.1)).Pairwise (· < ·)) :
    ((noteRule v table).map (·.1)).Pairwise (· < ·) := by
  induction table with
  | nil => exact List.pairwise_singleton _ _
  | cons entry rest ih =>
    obtain ⟨other,worst⟩ := entry
    have ⟨first,others⟩ := List.pairwise_cons.mp ascending
    unfold noteRule
    split
    · exact ascending
    · rename_i apart
      split
      · rename_i before
        refine List.pairwise_cons.mpr ⟨fun id member => ?_,ascending⟩
        rcases List.mem_cons.mp member with rfl | behind
        · exact before
        · exact before.trans (first id behind)
      · rename_i after
        refine List.pairwise_cons.mpr ⟨fun id member => ?_,ih others⟩
        rcases mem_ids_noteRule.mp member with rfl | behind
        · exact lt_of_le_of_ne (not_lt.mp after) (Ne.symm apart)
        · exact first id behind

-- Where an entry comes from: it is one of another rule, the first of this one, or the one that this rule
-- had with what is worse.
theorem mem_noteRule (ascending : (table.map (·.1)).Pairwise (· < ·)) (member : (id,s) ∈ noteRule v table) :
    (id ≠ v.rule ∧ (id,s) ∈ table) ∨ (id = v.rule ∧ s = v.severity ∧ id ∉ table.map (·.1)) ∨
      ∃ w, id = v.rule ∧ (id,w) ∈ table ∧ s = w.worse v.severity := by
  induction table with
  | nil =>
    cases List.mem_singleton.mp member
    exact .inr (.inl ⟨rfl,rfl,List.not_mem_nil⟩)
  | cons entry rest ih =>
    obtain ⟨other,worst⟩ := entry
    have ⟨first,others⟩ := List.pairwise_cons.mp ascending
    unfold noteRule at member
    split at member
    · rename_i here
      rcases List.mem_cons.mp member with same | later
      · cases same
        exact .inr (.inr ⟨worst,here.symm,List.mem_cons_self,rfl⟩)
      · refine .inl ⟨fun same => ?_,List.mem_cons_of_mem _ later⟩
        exact absurd (same.trans here) (ne_of_gt (first _ (id_mem later)))
    · rename_i apart
      split at member
      · rename_i before
        have fresh : ∀ {id}, id ∈ other :: rest.map (·.1) → v.rule < id := fun member =>
          (List.mem_cons.mp member).elim (fun same => same ▸ before) fun later => before.trans (first _ later)
        rcases List.mem_cons.mp member with same | later
        · cases same
          exact .inr (.inl ⟨rfl,rfl,fun among => lt_irrefl _ (fresh among)⟩)
        · exact .inl ⟨ne_of_gt (fresh (id_mem later)),later⟩
      · rcases List.mem_cons.mp member with same | later
        · cases same
          exact .inl ⟨Ne.symm apart,List.mem_cons_self⟩
        · rcases ih others later with ⟨other,old⟩ | ⟨rfl,new,fresh⟩ | ⟨w,here,old,joined⟩
          · exact .inl ⟨other,List.mem_cons_of_mem _ old⟩
          · refine .inr (.inl ⟨rfl,new,fun among => ?_⟩)
            exact (List.mem_cons.mp among).elim apart fresh
          · exact .inr (.inr ⟨w,here,List.mem_cons_of_mem _ old,joined⟩)

theorem Worst.later (worst : Worst seen id s) (apart : id ≠ v.rule) : Worst (seen ++ [v]) id s := by
  obtain ⟨⟨u,member,rule,severity⟩,bounds⟩ := worst
  refine ⟨⟨u,List.mem_append_left _ member,rule,severity⟩,fun w among here => ?_⟩
  rcases List.mem_append.mp among with old | new
  · exact bounds w old here
  · cases List.mem_singleton.mp new
    exact absurd here.symm apart

theorem Worst.first (fresh : v.rule ∉ seen.map (·.rule)) : Worst (seen ++ [v]) v.rule v.severity := by
  refine ⟨⟨v,List.mem_append_right _ List.mem_cons_self,rfl,rfl⟩,fun w among here => ?_⟩
  rcases List.mem_append.mp among with old | new
  · exact absurd (here ▸ List.mem_map_of_mem old) fresh
  · cases List.mem_singleton.mp new
    exact Nat.le_refl _

theorem Worst.joined (worst : Worst seen v.rule s) :
    Worst (seen ++ [v]) v.rule (s.worse v.severity) := by
  obtain ⟨⟨u,member,rule,severity⟩,bounds⟩ := worst
  refine ⟨?_,fun w among here => ?_⟩
  · rcases @worse_eq s v.severity with same | same <;> rw [same]
    · exact ⟨u,List.mem_append_left _ member,rule,severity⟩
    · exact ⟨v,List.mem_append_right _ List.mem_cons_self,rfl,rfl⟩
  · rcases List.mem_append.mp among with old | new
    · exact worse_le_left.trans (bounds w old here)
    · cases List.mem_singleton.mp new
      exact worse_le_right

-- One violation more.
theorem TableOf.noteRule (holds : TableOf seen table) : TableOf (seen ++ [v]) (noteRule v table) where
  ascending := noteRule_ascending holds.ascending
  ids id := by
    rw [mem_ids_noteRule,holds.ids,List.map_append,List.mem_append,List.map_singleton,List.mem_singleton,
      or_comm]
  worst id s member := by
    rcases mem_noteRule holds.ascending member with ⟨apart,old⟩ | ⟨rfl,rfl,fresh⟩ | ⟨w,rfl,old,rfl⟩
    · exact (holds.worst id s old).later apart
    · exact .first (mt (holds.ids _).mpr fresh)
    · exact (holds.worst _ w old).joined

theorem ruleSeverities_table (vs : List Violation) : TableOf vs (ruleSeverities vs) := by
  induction vs using List.reverseRecOn with
  | nil => exact ⟨.nil,fun _ => .rfl,nofun⟩
  | append_singleton vs v ih =>
    have last : ruleSeverities (vs ++ [v]) = Sarif.noteRule v (ruleSeverities vs) := List.foldl_concat ..
    rw [last]
    exact ih.noteRule

end Rules

-- The name of a file with every backslash turned into a slash.
def Slashed (file uri : String) : Prop :=
  List.Forall₂ (fun c d => if c = '\\' then d = '/' else d = c) file.toList uri.toList

-- A region with the lines and columns of a span, each of them at least one.
structure RegionOf (s : Span) (region : Json) : Prop where
  startLine : region.follow ["startLine"] = some (.number (max s.startLine 1))
  startColumn : region.follow ["startColumn"] = some (.number (max s.startColumn 1))
  endLine : region.follow ["endLine"] = some (.number (max s.endLine 1))
  endColumn : region.follow ["endColumn"] = some (.number (max s.endColumn 1))
  positive : ∀ key n, region.follow [key] = some (.number n) → 1 ≤ n

-- A location in a file. It may have a region as well.
structure FileOf (file : String) (location : Json) : Prop where
  uri : ∃ uri, location.follow ["physicalLocation","artifactLocation","uri"] = some (.string uri) ∧
    Slashed file uri

structure ResultOf (v : Violation) (result : Json) : Prop where
  rule : result.follow ["ruleId"] = some (.string v.rule)
  level : result.follow ["level"] = some (.string (level v.severity))
  message : result.follow ["message","text"] = some (.string v.message)
  location : ∃ location region, result.follow ["locations"] = some (.array [location]) ∧
    FileOf v.file location ∧ location.follow ["physicalLocation","region"] = some region ∧
    RegionOf v.span region

structure RuleOf (entry : String × Severity) (rule : Json) : Prop where
  id : rule.follow ["id"] = some (.string entry.1)
  level : rule.follow ["defaultConfiguration","level"] = some (.string (level entry.2))

structure ExecutionNoteOf (e : ProcessingError) (note : Json) : Prop where
  level : note.follow ["level"] = some (.string "error")
  message : note.follow ["message","text"] = some (.string e.detail)
  location : ∃ location, note.follow ["locations"] = some (.array [location]) ∧ FileOf e.file location

structure ConfigurationNoteOf (e : ConfigurationError) (note : Json) : Prop where
  level : note.follow ["level"] = some (.string "error")
  message : note.follow ["message","text"] = some (.string e.detail)
  rule : note.follow ["associatedRule","id"] = some (.string e.rule)

-- One run with one invocation that tells a whole report.
structure RunOf (r : Report) (run : Json) : Prop where
  results : ∃ results, run.follow ["results"] = some (.array results) ∧
    List.Forall₂ ResultOf r.violations results
  rules : ∃ rules table, run.follow ["tool","driver","rules"] = some (.array rules) ∧
    List.Forall₂ RuleOf table rules ∧ TableOf r.violations table
  invocation : ∃ invocation execution configuration successful,
    run.follow ["invocations"] = some (.array [invocation]) ∧
    invocation.follow ["toolExecutionNotifications"] = some (.array execution) ∧
    List.Forall₂ ExecutionNoteOf r.processingErrors execution ∧
    invocation.follow ["toolConfigurationNotifications"] = some (.array configuration) ∧
    List.Forall₂ ConfigurationNoteOf r.configurationErrors configuration ∧
    invocation.follow ["executionSuccessful"] = some (.boolean successful) ∧
    (successful = true ↔ r.processingErrors = [])

section Entries
variable (file : String) (s : Span) (v : Violation)

theorem uri_slashed : Slashed file (uri file) := by
  unfold Slashed uri
  rw [String.toList_ofList,List.forall₂_map_right_iff]
  refine List.forall₂_same.mpr fun c _ => ?_
  by_cases h : c = '\\' <;> simp [h]

theorem region_tells : RegionOf s (region s).toJson := by
  refine ⟨rfl,rfl,rfl,rfl,fun key n found => ?_⟩
  rw [Region.toJson,follow_object] at found
  have member := lookup_mem found
  simp only [region,List.mem_cons,List.not_mem_nil,or_false,Prod.mk.injEq,Json.number.injEq] at member
  rcases member with ⟨_,rfl⟩ | ⟨_,rfl⟩ | ⟨_,rfl⟩ | ⟨_,rfl⟩ <;> exact Nat.le_max_right _ _

theorem file_tells (region? : Option Region) : FileOf file (Location.toJson ⟨uri file,region?⟩) :=
  ⟨uri file,rfl,uri_slashed file⟩

theorem result_tells : ResultOf v (result v).toJson :=
  ⟨rfl,rfl,rfl,_,_,rfl,file_tells _ _,rfl,region_tells _⟩

theorem rule_tells (entry : String × Severity) : RuleOf entry (RuleLevel.toJson ⟨entry.1,level entry.2⟩) :=
  ⟨rfl,rfl⟩

theorem executionNote_tells (e : ProcessingError) : ExecutionNoteOf e (executionNote e).toJson :=
  ⟨rfl,rfl,_,rfl,file_tells _ _⟩

theorem configurationNote_tells (e : ConfigurationError) :
    ConfigurationNoteOf e (configurationNote e).toJson :=
  ⟨rfl,rfl,rfl⟩

end Entries

-- What is written of each entry, when that is a value with a form of its own.
theorem entries_tell {α β : Type} {R : α → Json → Prop} {f : α → β} {write : β → Json}
    (each : ∀ a, R a (write (f a))) (as : List α) : List.Forall₂ R as ((as.map f).map write) := by
  rw [List.forall₂_map_right_iff,List.forall₂_map_right_iff]
  exact List.forall₂_same.mpr fun a _ => each a

theorem run_tells (r : Report) : RunOf r (run r).toJson where
  results := ⟨_,rfl,entries_tell result_tells _⟩
  rules := ⟨_,_,rfl,entries_tell rule_tells _,ruleSeverities_table _⟩
  invocation := ⟨_,_,_,_,rfl,rfl,entries_tell executionNote_tells _,rfl,
    entries_tell configurationNote_tells _,rfl,List.isEmpty_iff⟩

end TreeAudit.Sarif
