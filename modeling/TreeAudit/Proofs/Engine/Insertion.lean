import Mathlib.Data.List.InsertIdx
import TreeAudit.Proofs.Engine.Reports
import TreeAudit.Proofs.Engine.Sharing

-- One rule more in an engine. The places of the rules behind it are moved by one; what the other rules
-- find and how they fail stays as it is, and what the new rule adds is put in between.
namespace TreeAudit

-- A list in which one stretch is new.
def Inserted (own before after : List α) : Prop :=
  ∃ first last, before = first ++ last ∧ after = first ++ own ++ last

-- A list made of two lists, with the order of each kept.
inductive Woven : List α → List α → List α → Prop
  | nil : Woven [] [] []
  | left : Woven own rest whole → Woven (a :: own) rest (a :: whole)
  | right : Woven own rest whole → Woven own (a :: rest) (a :: whole)

section Lists
variable {own rest whole more other all before after : List α} {f g h : β → List α} {a : α}

theorem Woven.of_rest : (rest : List α) → Woven [] rest rest
  | [] => .nil
  | _ :: rest => .right (.of_rest rest)

theorem Woven.append (one : Woven own rest whole) (two : Woven more other all) :
    Woven (own ++ more) (rest ++ other) (whole ++ all) := by
  induction one with
  | nil => exact two
  | left _ ih => exact .left ih
  | right _ ih => exact .right ih

theorem Woven.of_own : (own : List α) → Woven own [] own
  | [] => .nil
  | _ :: own => .left (.of_own own)

theorem Inserted.woven (inserted : Inserted own before after) : Woven own before after := by
  obtain ⟨first,last,rfl,rfl⟩ := inserted
  have woven := ((Woven.of_rest first).append (Woven.of_own own)).append (Woven.of_rest last)
  rw [List.nil_append,List.append_nil,List.append_nil] at woven
  exact woven

theorem Woven.flatMap (each : ∀ b, Woven (f b) (g b) (h b)) (bs : List β) :
    Woven (bs.flatMap f) (bs.flatMap g) (bs.flatMap h) := by
  induction bs with
  | nil => exact .nil
  | cons b bs ih =>
    rw [List.flatMap_cons,List.flatMap_cons,List.flatMap_cons]
    exact (each b).append ih

theorem Inserted.cons (inserted : Inserted own before after) (a : α) :
    Inserted own (a :: before) (a :: after) := by
  obtain ⟨first,last,rfl,rfl⟩ := inserted
  exact ⟨a :: first,last,rfl,rfl⟩

theorem Inserted.append_left (front : List α) (inserted : Inserted own before after) :
    Inserted own (front ++ before) (front ++ after) := by
  induction front with
  | nil => exact inserted
  | cons a front ih => exact ih.cons a

theorem inserted_insertIdx {n : Nat} (inside : n ≤ before.length) (a : α) :
    Inserted [a] before (before.insertIdx n a) := by
  induction before generalizing n with
  | nil =>
    cases Nat.le_zero.mp inside
    exact ⟨[],[],rfl,rfl⟩
  | cons b before ih =>
    cases n with
    | zero => exact ⟨[],b :: before,rfl,rfl⟩
    | succ n => exact (ih (Nat.le_of_succ_le_succ inside)).cons b

theorem Inserted.flatMap {bs cs : List β} {b : β} (inserted : Inserted [b] bs cs) (f : β → List α) :
    Inserted (f b) (bs.flatMap f) (cs.flatMap f) := by
  obtain ⟨first,last,rfl,rfl⟩ := inserted
  refine ⟨first.flatMap f,last.flatMap f,List.flatMap_append,?_⟩
  rw [List.flatMap_append,List.flatMap_append,List.flatMap_singleton]

-- Where an entry stands after one more was inserted.
def past (n i : Nat) : Nat := if i < n then i else i + 1

theorem past_ne (n i : Nat) : past n i ≠ n := by
  unfold past
  split <;> omega

theorem past_injective {n i j : Nat} (same : past n i = past n j) : i = j := by
  unfold past at same
  split at same <;> split at same <;> omega

theorem zipIdx_insertIdx (items : List α) (n : Nat) (a : α) : (items.insertIdx n a).zipIdx =
    (items.zipIdx.map fun item => (item.1,past n item.2)).insertIdx n (a,n) := by
  refine List.ext_getElem? fun j => ?_
  rw [List.getElem?_zipIdx,List.getElem?_insertIdx,List.getElem?_insertIdx]
  simp only [List.getElem?_map,List.getElem?_zipIdx,List.length_map,List.length_zipIdx,Option.map_map]
  rcases Nat.lt_trichotomy j n with before | rfl | behind
  · simp [before,past,Function.comp_def]
  · by_cases inside : j ≤ items.length
    · simp [inside]
    · simp [inside]
  · have moved : past n (j - 1) = j := by
      unfold past
      split <;> omega
    have other : ¬j < n := by omega
    have apart : j ≠ n := by omega
    simp [other,apart,moved,Function.comp_def]

end Lists

def BrokenRule.past (n : Nat) (b : BrokenRule) : BrokenRule := { b with place := TreeAudit.past n b.place }

namespace Engine
open Schedule

section Faults
variable {own rest whole : List BrokenRule} {seen also : List Nat} {n : Nat}

theorem newlyBroken_past (n : Nat) (seen : List Nat) (bs : List BrokenRule) :
    newlyBroken (seen.map (past n)) (bs.map (BrokenRule.past n)) =
      (newlyBroken seen bs).map (BrokenRule.past n) := by
  induction bs generalizing seen with
  | nil => rfl
  | cons b bs ih =>
    have alike : (seen.map (past n)).contains (b.past n).place = seen.contains b.place := by
      rw [Bool.eq_iff_iff,List.contains_iff_mem,List.contains_iff_mem]
      exact List.mem_map_of_injective fun _ _ => past_injective
    rw [List.map_cons,newlyBroken,newlyBroken,alike]
    split
    · exact ih seen
    · rw [List.map_cons]
      exact congrArg (b.past n :: ·) (ih (b.place :: seen))

-- Once its place has been seen, a rule has no further say.
theorem newlyBroken_skips (woven : Woven own rest whole) (mine : ∀ b ∈ own, b.place = n)
    (others : ∀ b ∈ rest, b.place ≠ n) (known : n ∈ also) (same : ∀ m, m ≠ n → (m ∈ also ↔ m ∈ seen)) :
    newlyBroken also whole = newlyBroken seen rest := by
  induction woven generalizing seen also with
  | nil => rfl
  | left _ ih =>
    obtain ⟨first,more⟩ := List.forall_mem_cons.mp mine
    rw [newlyBroken,first,if_pos (List.contains_iff_mem.mpr known)]
    exact ih more others known same
  | @right _ _ _ b _ ih =>
    obtain ⟨first,more⟩ := List.forall_mem_cons.mp others
    have alike : also.contains b.place = seen.contains b.place := by
      rw [Bool.eq_iff_iff,List.contains_iff_mem,List.contains_iff_mem]
      exact same b.place first
    rw [newlyBroken,newlyBroken,alike]
    split
    · exact ih mine more known same
    · refine congrArg (b :: ·) (ih mine more (List.mem_cons_of_mem _ known) fun m other => ?_)
      rw [List.mem_cons,List.mem_cons,same m other]

-- The first fault of the new rule is the one that is put in.
theorem newlyBroken_woven (woven : Woven own rest whole) (mine : ∀ b ∈ own, b.place = n)
    (others : ∀ b ∈ rest, b.place ≠ n) (fresh : n ∉ seen) :
    Inserted own.head?.toList (newlyBroken seen rest) (newlyBroken seen whole) := by
  induction woven generalizing seen with
  | nil => exact ⟨[],[],rfl,rfl⟩
  | @left own rest _ b woven _ =>
    obtain ⟨first,more⟩ := List.forall_mem_cons.mp mine
    have unseen : seen.contains b.place = false := by
      rw [first,List.contains_eq_mem]
      exact decide_eq_false fresh
    have behind : newlyBroken (b.place :: seen) _ = newlyBroken seen rest :=
      newlyBroken_skips woven more others (first ▸ List.mem_cons_self)
        fun m other => by rw [first,List.mem_cons,or_iff_right other]
    rw [newlyBroken,unseen,if_neg Bool.false_ne_true,behind]
    exact ⟨[],_,rfl,rfl⟩
  | @right _ _ _ b _ ih =>
    obtain ⟨first,more⟩ := List.forall_mem_cons.mp others
    rw [newlyBroken,newlyBroken]
    split
    · exact ih mine more fresh
    · refine (ih mine more fun member => ?_).cons b
      exact (List.mem_cons.mp member).elim (fun equal => first equal.symm) fresh

end Faults

-- The engine with one rule more.
def inserting (e : Engine) (place : Nat) (r : Rule) : Engine :=
  { e with rules := e.rules.insertIdx place r }

section Insertion
variable {e : Engine} {r : Rule} {place : Nat} {task : FileTask} {share : Rule → Nat → Share}

theorem ruleId_past (e : Engine) (place : Nat) (r : Rule) (n : Nat) :
    (e.inserting place r).ruleId (past place n) = e.ruleId n := by
  unfold ruleId inserting
  dsimp only
  rw [List.getElem?_insertIdx]
  unfold past
  by_cases front : n < place
  · rw [if_pos front,if_pos front]
  · rw [if_neg front,if_neg (by omega),if_neg (by omega),Nat.add_sub_cancel]

theorem ruleId_inserted (inside : place ≤ e.rules.length) (r : Rule) :
    (e.inserting place r).ruleId place = r.id := by
  unfold ruleId inserting
  dsimp only
  rw [List.getElem?_insertIdx,if_neg (Nat.lt_irrefl place),if_pos rfl,if_pos inside]
  rfl

-- One part of the shares, which may name the places of the rules.
theorem shares_insert (inside : place ≤ e.rules.length) (r : Rule)
    (adds : ∀ r place, e.Adds r place task (share r place)) (part : Share → List β) (follow : β → β)
    (follows : ∀ r n s, e.Adds r n task s → part (s.moved (past place n)) = (part s).map follow) :
    Inserted (part (share r place))
      ((e.rules.zipIdx.map fun r => share r.1 r.2).flatMap part |>.map follow)
      (((e.rules.insertIdx place r).zipIdx.map fun r => share r.1 r.2).flatMap part) := by
  have wide : place ≤ (e.rules.zipIdx.map fun r => (r.1,past place r.2)).length := by
    rw [List.length_map,List.length_zipIdx]
    exact inside
  have inserted := (inserted_insertIdx wide (r,place)).flatMap fun r => part (share r.1 r.2)
  have same : ∀ r n, part (share r (past place n)) = (part (share r n)).map follow := by
    intro r n
    rw [← follows r n _ (adds r n)]
    exact congrArg part ((adds r _).unique ((adds r n).moved _))
  rw [← zipIdx_insertIdx,List.flatMap_map] at inserted
  simp only [same] at inserted
  rw [List.flatMap_map,List.flatMap_map,List.map_flatMap]
  exact inserted

-- A part that does not name them is kept as it is.
theorem shares_keep (inside : place ≤ e.rules.length) (r : Rule)
    (adds : ∀ r place, e.Adds r place task (share r place)) (part : Share → List β)
    (keeps : ∀ n s, part (s.moved n) = part s) :
    Inserted (part (share r place)) ((e.rules.zipIdx.map fun r => share r.1 r.2).flatMap part)
      (((e.rules.insertIdx place r).zipIdx.map fun r => share r.1 r.2).flatMap part) := by
  have inserted := shares_insert inside r adds part id fun _ _ s _ => (keeps _ s).trans (List.map_id _).symm
  rw [List.map_id] at inserted
  exact inserted

-- What one more rule changes on one task.
theorem perform_insert (inside : place ≤ e.rules.length) (r : Rule)
    (adds : ∀ r place, e.Adds r place task (share r place)) :
    let before := e.perform task
    let after := (e.inserting place r).perform task
    Inserted (share r place).violations before.report.violations after.report.violations ∧
    Inserted (share r place).errors before.report.processingErrors after.report.processingErrors ∧
    Inserted (share r place).brokenRules (before.broken.map (BrokenRule.past place)) after.broken ∧
    after.report.files = before.report.files := by
  obtain ⟨o,sound,_,gains⟩ := perform_gains e task adds
  have before := gains e.rules
  have after := gains (e.rules.insertIdx place r)
  rw [foldl_gain] at before after
  dsimp only
  rw [inserting,after,show e.perform task = _ from before]
  refine ⟨?_,?_,?_,rfl⟩
  · exact .append_left _ (shares_keep inside r adds Share.violations fun n s => by cases s <;> rfl)
  · exact .append_left _ (shares_keep inside r adds Share.errors fun n s => by cases s <;> rfl)
  · rw [sound,List.nil_append,List.nil_append]
    refine shares_insert inside r adds Share.brokenRules (BrokenRule.past place) fun r n s among => ?_
    cases s with
    | broken b =>
      have placed := among.at_place b List.mem_cons_self
      subst placed
      rfl
    | apart | found _ | error _ => rfl

-- The faults of a run, before and after.
theorem runErrors_insert (inside : place ≤ e.rules.length) (r : Rule) {before after : List FileOutcome}
    {own : List BrokenRule} (mine : ∀ b ∈ own, b.place = place)
    (woven : Woven own ((before.flatMap (·.broken)).map (BrokenRule.past place)) (after.flatMap (·.broken))) :
    ∃ first last, e.setupErrors <+: first ∧ e.runErrors before = first ++ last ∧
      (e.inserting place r).runErrors after =
        first ++ (own.head?.map fun b => ⟨r.id,b.detail⟩).toList ++ last := by
  have others : ∀ b ∈ (before.flatMap (·.broken)).map (BrokenRule.past place), b.place ≠ place := by
    intro b member
    obtain ⟨b,_,rfl⟩ := List.mem_map.mp member
    exact past_ne place b.place
  have unseen : place ∉ ([] : List Nat) := List.not_mem_nil
  obtain ⟨first,last,kept,added⟩ := newlyBroken_woven woven mine others unseen
  have moved := newlyBroken_past place [] (before.flatMap (·.broken))
  rw [List.map_nil,kept] at moved
  let error (b : BrokenRule) : ConfigurationError := ⟨(e.inserting place r).ruleId b.place,b.detail⟩
  have errors : (newlyBroken [] (before.flatMap (·.broken))).map
      (fun b => (⟨e.ruleId b.place,b.detail⟩ : ConfigurationError)) = first.map error ++ last.map error := by
    rw [← List.map_append,moved,List.map_map]
    refine List.map_congr_left fun b _ => ?_
    exact congrArg (ConfigurationError.mk · b.detail) (ruleId_past e place r b.place).symm
  have added_error : own.head?.toList.map error = (own.head?.map fun b => ⟨r.id,b.detail⟩).toList := by
    cases own with
    | nil => rfl
    | cons b own =>
      have placed := mine b List.mem_cons_self
      simp [error,placed,ruleId_inserted inside]
  refine ⟨e.setupErrors ++ first.map error,last.map error,List.prefix_append _ _,?_,?_⟩
  · rw [runErrors,errors,List.append_assoc]
  · rw [runErrors,added,List.map_append,List.map_append,added_error]
    simp [inserting,error]

-- One rule more, at any place, in a run on shared trees. What it adds on each file is put in between, and
-- so is the first of its faults; all that the other rules add stays, in its order.
theorem runSharing_insert (e : Engine) (r : Rule) (place : Nat) (tasks : List FileTask) (events : List Event)
    (inside : place ≤ e.rules.length) (steady : ∀ l ∈ e.registry.languages, l.Steady)
    (ordinary : ∀ q ∈ r :: e.rules, q.Ordinary) (complete : Complete tasks.length events) :
    let before := e.runSharing events tasks
    let after := (e.inserting place r).runSharing events tasks
    ∃ own : FileTask → Share, (∀ task, e.Adds r place task (own task)) ∧
      Woven ((chosen events tasks).flatMap fun task => (own task).violations)
        before.violations after.violations ∧
      Woven ((chosen events tasks).flatMap fun task => (own task).errors)
        before.processingErrors after.processingErrors ∧
      (∃ first last, e.setupErrors <+: first ∧ before.configurationErrors = first ++ last ∧
        after.configurationErrors = first ++
          (((chosen events tasks).flatMap fun task => (own task).brokenRules).head?.map fun b =>
            ⟨r.id,b.detail⟩).toList ++ last) ∧
      after.files = before.files := by
  have still : ∀ q ∈ (e.inserting place r).rules, q.Ordinary :=
    fun q member => ordinary q (List.insertIdx_subset_cons place r e.rules member)
  rw [runSharing_chosen steady (fun q member => ordinary q (List.mem_cons_of_mem r member)) complete,
    runSharing_chosen (e := e.inserting place r) steady still complete]
  choose share adds using fun task r place => adds_total e r place task
  have changes := fun task => perform_insert inside r (adds task)
  rw [reportOf_perform,reportOf_perform]
  refine ⟨fun task => share task r place,fun task => adds task r place,?_,?_,?_,?_⟩
  · exact Woven.flatMap (fun task => (changes task).1.woven) _
  · exact Woven.flatMap (fun task => (changes task).2.1.woven) _
  · refine runErrors_insert inside r ?_ ?_
    · intro b member
      obtain ⟨task,_,among⟩ := List.mem_flatMap.mp member
      exact (adds task r place).at_place b among
    · rw [List.flatMap_map,List.flatMap_map,List.map_flatMap]
      exact Woven.flatMap (fun task => (changes task).2.2.1.woven) _
  · exact congrArg List.sum (List.map_congr_left fun task _ => (changes task).2.2.2)

end Insertion

-- Java with a parser that gives the same tree for every text.
def sampleLanguage : Language := { Java.language with parser := .ok fun _ _ => .tree sample }

theorem sampleLanguage_steady : sampleLanguage.Steady := ⟨java_metrics_steady,java_steady.functions⟩

def fragileRule : Rule where
  id := "fragile"
  language := "java"
  severity := .error
  apply := fun _ _ => ([⟨0,"here"⟩],.crashed .withoutText)

def sampleRule (id : String) (query : PathQuery) : Rule :=
  QueryRule.toRule ⟨id,.warning,"simple",query⟩

def sampleEngine (query : PathQuery) : Engine where
  registry := ⟨[sampleLanguage]⟩
  rules := [fragileRule,sampleRule "plain" query]

def sampleFiles : List FileTask := [.ok { file := "A.java", source := "" },.ok { file := "B.java", source := "" }]

def sampleSource : String := "//MethodDeclaration[metric('CYCLO') = metric('NCSS')]"

-- A query that measures is put between a rule that breaks off and a rule with the same query.
theorem runSharing_insert_sample : ∃ q, PathQuery.compile sampleSource sampleLanguage [] = .ok q ∧
    let e := sampleEngine q
    let r := sampleRule "again" q
    let before := e.runSharing (sequential 2) sampleFiles
    let after := (e.inserting 1 r).runSharing (sequential 2) sampleFiles
    1 ≤ e.rules.length ∧ (∀ l ∈ e.registry.languages, l.Steady) ∧ (∀ q ∈ r :: e.rules, q.Ordinary) ∧
      Complete sampleFiles.length (sequential 2) ∧
      ∃ own : FileTask → Share, (∀ task, e.Adds r 1 task (own task)) ∧
        Woven (sampleFiles.flatMap fun task => (own task).violations) before.violations after.violations ∧
        after.files = before.files := by
  have accepted : (PathQuery.compile sampleSource sampleLanguage []).isOk = true := by decide +kernel
  cases compiled : PathQuery.compile sampleSource sampleLanguage [] with
  | error f =>
    rw [compiled] at accepted
    cases accepted
  | ok q =>
    have steady : ∀ l ∈ (sampleEngine q).registry.languages, l.Steady :=
      List.forall_mem_singleton.mpr sampleLanguage_steady
    have asks : ∀ id, (sampleRule id q).Ordinary := fun id => .query compiled sampleLanguage_steady
    have ordinary : ∀ r ∈ sampleRule "again" q :: (sampleEngine q).rules, r.Ordinary :=
      List.forall_mem_cons.mpr ⟨asks _,List.forall_mem_cons.mpr
        ⟨.native _ _ _ _,List.forall_mem_singleton.mpr (asks _)⟩⟩
    have complete : Complete sampleFiles.length (sequential 2) := sequential_complete 2
    have inside : 1 ≤ (sampleEngine q).rules.length := Nat.le_succ 1
    refine ⟨q,rfl,inside,steady,ordinary,complete,?_⟩
    obtain ⟨own,adds,woven,_,_,files⟩ := runSharing_insert (sampleEngine q) (sampleRule "again" q) 1
      sampleFiles (sequential 2) inside steady ordinary complete
    exact ⟨own,adds,woven,files⟩

end Engine

end TreeAudit
