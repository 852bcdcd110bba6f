import Mathlib.Data.List.Basic
import Mathlib.Data.List.Induction
import TreeAudit.Engine.Run
import TreeAudit.Languages

-- Runs under any schedule. A task counts exactly if it found the run not cancelled, and what it gives
-- does not depend on when it ran, so every schedule of a run gives the report of the tasks that counted,
-- one after the other. How many tasks are under way at a time only limits which schedules there are.
namespace TreeAudit

namespace Schedule

-- The tasks that found the run not cancelled when they started.
def admitted : List Event → List Nat
  | [] => []
  | .start i :: events => i :: admitted events
  | .finish _ :: events => admitted events
  | .cancel :: _ => []

-- All of `n` tasks start, and those that were admitted finish at some time after.
structure Complete (n : Nat) (events : List Event) : Prop where
  starts : ∀ i, i < n → .start i ∈ events
  finishes : ∀ before i after, events = before ++ .start i :: after → .cancel ∉ before →
    .finish i ∈ after

-- What belongs to the admitted tasks, in the order of the tasks.
def chosen (events : List Event) (items : List α) : List α :=
  (items.zipIdx.filter fun item => (admitted events).contains item.2).map Prod.fst

section Runs
variable {work : Nat → α} {p : Progress α} {events after : List Event} {event : Event} {i n : Nat}

theorem admitted_append (events after : List Event) : admitted (events ++ after) =
    admitted events ++ if .cancel ∈ events then [] else admitted after := by
  induction events with
  | nil => rfl
  | cons event events ih =>
    cases event with
    | start i => simp [admitted,ih]
    | finish i => simp [admitted,ih]
    | cancel => simp [admitted]

theorem mem_admitted : i ∈ admitted events →
    ∃ before after, events = before ++ .start i :: after ∧ .cancel ∉ before := by
  induction events with
  | nil =>
    intro member
    cases member
  | cons event events ih =>
    cases event with
    | start j =>
      intro member
      rcases List.mem_cons.mp member with rfl | later
      · exact ⟨[],events,rfl,List.not_mem_nil⟩
      · obtain ⟨before,after,rfl,open_⟩ := ih later
        exact ⟨.start j :: before,after,rfl,by simpa using open_⟩
    | finish j =>
      intro member
      obtain ⟨before,after,rfl,open_⟩ := ih member
      exact ⟨.finish j :: before,after,rfl,by simpa using open_⟩
    | cancel =>
      intro member
      cases member

theorem admitted_all (open_ : .cancel ∉ events) (starts : .start i ∈ events) : i ∈ admitted events := by
  obtain ⟨before,after,rfl⟩ := List.append_of_mem starts
  rw [admitted_append,if_neg fun early => open_ (List.mem_append_left _ early)]
  exact List.mem_append_right _ List.mem_cons_self

-- What the progress made so far tells of the events: the run is cancelled if there was a sign for it,
-- and only admitted tasks are under way or done, each with the result of its own work.
structure Truthful (work : Nat → α) (events : List Event) (p : Progress α) : Prop where
  cancelled : p.cancelled = true ↔ .cancel ∈ events
  underWay : ∀ i ∈ p.underWay, i ∈ admitted events
  results : ∀ r ∈ p.results, r.1 ∈ admitted events ∧ r.2 = work r.1

theorem step_truthful (truthful : Truthful work events p) (event : Event) :
    Truthful work (events ++ [event]) (p.step work event) := by
  have grows : ∀ i, i ∈ admitted events → i ∈ admitted (events ++ [event]) := by
    intro i member
    rw [admitted_append]
    exact List.mem_append_left _ member
  have kept : ∀ j ∈ p.underWay, j ∈ admitted (events ++ [event]) := by
    intro j member
    exact grows j (truthful.underWay j member)
  have results : ∀ r ∈ p.results, r.1 ∈ admitted (events ++ [event]) ∧ r.2 = work r.1 := by
    intro r member
    obtain ⟨known,same⟩ := truthful.results r member
    exact ⟨grows r.1 known,same⟩
  cases event with
  | start i =>
    rw [Progress.step]
    split
    · exact ⟨by simpa using truthful.cancelled,kept,results⟩
    · rename_i running
      refine ⟨by simpa using truthful.cancelled,?_,results⟩
      intro j member
      rcases List.mem_cons.mp member with rfl | earlier
      · rw [admitted_append,if_neg fun early => running (truthful.cancelled.mpr early)]
        exact List.mem_append_right _ List.mem_cons_self
      · exact kept j earlier
  | finish i =>
    rw [Progress.step]
    split
    · rename_i known
      refine ⟨by simpa using truthful.cancelled,?_,?_⟩
      · intro j member
        exact kept j (List.mem_of_mem_erase member)
      · intro r member
        rcases List.mem_cons.mp member with rfl | earlier
        · exact ⟨kept i (List.contains_iff_mem.mp known),rfl⟩
        · exact results r earlier
    · exact ⟨by simpa using truthful.cancelled,kept,results⟩
  | cancel =>
    exact ⟨by simp [Progress.step],kept,results⟩

theorem run_truthful (work : Nat → α) (events : List Event) : Truthful work events (run work events) := by
  induction events using List.reverseRecOn with
  | nil =>
    constructor
    case cancelled => simp [run]
    case underWay => simp [run]
    case results => simp [run]
  | append_singleton events event ih =>
    rw [run,List.foldl_append]
    exact step_truthful ih event

def Done (p : Progress α) (i : Nat) : Prop := ∃ a, (i,a) ∈ p.results

-- A task that is under way stays so until it is done, and stays done.
theorem step_done (done : Done p i) (event : Event) : Done (p.step work event) i := by
  obtain ⟨a,member⟩ := done
  cases event with
  | start j =>
    rw [Progress.step]
    split
    · exact ⟨a,member⟩
    · exact ⟨a,member⟩
  | finish j =>
    rw [Progress.step]
    split
    · exact ⟨a,List.mem_cons_of_mem _ member⟩
    · exact ⟨a,member⟩
  | cancel => exact ⟨a,member⟩

theorem step_held (held : i ∈ p.underWay ∨ Done p i) (event : Event) :
    i ∈ (p.step work event).underWay ∨ Done (p.step work event) i := by
  rcases held with active | done
  · cases event with
    | start j =>
      rw [Progress.step]
      split
      · exact .inl active
      · exact .inl (List.mem_cons_of_mem _ active)
    | finish j =>
      rw [Progress.step]
      split
      · by_cases same : i = j
        · subst same
          exact .inr ⟨work i,List.mem_cons_self⟩
        · exact .inl ((List.mem_erase_of_ne same).mpr active)
      · exact .inl active
    | cancel => exact .inl active
  · exact .inr (step_done done event)

theorem finish_done (work : Nat → α) (held : i ∈ p.underWay ∨ Done p i) : Done (p.step work (.finish i)) i := by
  rcases held with active | done
  · rw [Progress.step,if_pos (List.contains_iff_mem.mpr active)]
    exact ⟨work i,List.mem_cons_self⟩
  · exact step_done done _

theorem foldl_held (work : Nat → α) (held : i ∈ p.underWay ∨ Done p i) (events : List Event) :
    i ∈ (events.foldl (Progress.step work) p).underWay ∨ Done (events.foldl (Progress.step work) p) i := by
  induction events generalizing p with
  | nil => exact held
  | cons event events ih => exact ih (step_held held event)

theorem foldl_done (done : Done p i) (events : List Event) :
    Done (events.foldl (Progress.step work) p) i := by
  induction events generalizing p with
  | nil => exact done
  | cons event events ih => exact ih (step_done done event)

theorem run_done (complete : Complete n events) (member : i ∈ admitted events) :
    Done (run work events) i := by
  obtain ⟨before,after,rfl,open_⟩ := mem_admitted member
  obtain ⟨during,rest,rfl⟩ := List.append_of_mem (complete.finishes before i after rfl open_)
  have running : (run work before).cancelled = false := by
    rw [Bool.eq_false_iff]
    intro cancelled
    exact open_ ((run_truthful work before).cancelled.mp cancelled)
  have active : i ∈ ((run work before).step work (.start i)).underWay := by
    rw [Progress.step,running]
    exact List.mem_cons_self
  have done := finish_done work (foldl_held work (.inl active) during)
  rw [run,List.foldl_append,List.foldl_cons,List.foldl_append,List.foldl_cons]
  exact foldl_done done rest

theorem lookup_of_results {results : List (Nat × α)} (some : ∃ a, (i,a) ∈ results)
    (only : ∀ r ∈ results, r.2 = work r.1) : results.lookup i = .some (work i) := by
  induction results with
  | nil =>
    obtain ⟨a,member⟩ := some
    cases member
  | cons r results ih =>
    obtain ⟨first,later⟩ := List.forall_mem_cons.mp only
    obtain ⟨j,b⟩ := r
    rw [List.lookup_cons]
    by_cases same : i = j
    · subst same
      rw [beq_self_eq_true]
      exact congrArg Option.some first
    · rw [beq_eq_false_iff_ne.mpr same]
      refine ih ?_ later
      obtain ⟨a,member⟩ := some
      rcases List.mem_cons.mp member with head | tail
      · cases head
        exact absurd rfl same
      · exact ⟨a,tail⟩

-- The results at the end, whatever the order of the events.
theorem run_lookup (work : Nat → α) (complete : Complete n events) (i : Nat) :
    (run work events).results.lookup i =
      if (admitted events).contains i then some (work i) else none := by
  have truthful := run_truthful work events
  split
  · rename_i member
    have done : Done (run work events) i := run_done complete (List.contains_iff_mem.mp member)
    apply lookup_of_results done
    intro r among
    exact (truthful.results r among).2
  · rename_i outside
    rw [List.lookup_eq_none_iff]
    intro r among
    rw [bne_iff_ne]
    rintro rfl
    exact outside (List.contains_iff_mem.mpr (truthful.results r among).1)

theorem sequential_complete (n : Nat) : Complete n (sequential n) := by
  constructor
  case starts =>
    intro i inside
    exact List.mem_flatMap.mpr ⟨i,List.mem_range.mpr inside,List.mem_cons_self⟩
  case finishes =>
    unfold sequential
    generalize List.range n = tasks
    induction tasks with
    | nil =>
      intro before i after none
      simp at none
    | cons j tasks ih =>
      intro before i after split open_
      match before with
      | [] =>
        cases split
        exact List.mem_cons_self
      | [_] => cases split
      | _ :: _ :: before =>
        simp only [List.flatMap_cons,List.cons_append,List.nil_append,List.cons.injEq] at split
        obtain ⟨rfl,rfl,rest⟩ := split
        apply ih before i after rest
        intro member
        exact open_ (List.mem_cons_of_mem _ (List.mem_cons_of_mem _ member))

theorem sequential_open (n : Nat) : .cancel ∉ sequential n := by
  intro member
  obtain ⟨i,_,among⟩ := List.mem_flatMap.mp member
  simp at among

theorem chosen_all (complete : Complete n events) (open_ : .cancel ∉ events) {items : List β}
    (length : items.length = n) : chosen events items = items := by
  have all : ∀ item ∈ items.zipIdx, (admitted events).contains item.2 = true := by
    intro item member
    have inside : item.2 < items.length := by
      have bound := List.snd_lt_add_of_mem_zipIdx member
      omega
    exact List.contains_iff_mem.mpr (admitted_all open_ (complete.starts item.2 (length ▸ inside)))
  rw [chosen,List.filter_eq_self.mpr all,List.zipIdx_map_fst]

-- The numbers of the tasks are read as places in the list, so that the results come out beside the items
-- that they belong to.
theorem collect_chosen (f : β → γ) {items : List β} (complete : Complete items.length events) :
    (collect items.length (run (fun i => (items[i]?).map f) events)).filterMap Option.join =
      (chosen events items).map f := by
  have lookups : ∀ item ∈ items.zipIdx,
      Option.join ((run (fun i => (items[i]?).map f) events).results.lookup item.2) =
        if (admitted events).contains item.2 then some (f item.1) else none := by
    intro item member
    rw [run_lookup _ complete item.2,List.mem_zipIdx_iff_getElem?.mp member]
    split
    · rfl
    · rfl
  calc
    _ = (List.range items.length).filterMap fun i =>
        Option.join ((run (fun i => (items[i]?).map f) events).results.lookup i) := by
      rw [collect,List.filterMap_map]
      rfl
    _ = items.zipIdx.filterMap fun item =>
        Option.join ((run (fun i => (items[i]?).map f) events).results.lookup item.2) := by
      rw [List.range_eq_range',← List.zipIdx_map_snd,List.filterMap_map]
      rfl
    _ = items.zipIdx.filterMap fun item =>
        if (admitted events).contains item.2 then some (f item.1) else none :=
      List.filterMap_congr lookups
    _ = (chosen events items).map f := by
      rw [chosen,List.map_map,← List.filterMap_eq_map,List.filterMap_filter]
      rfl

end Runs

end Schedule

namespace Engine
open Schedule

theorem runUnder_chosen (e : Engine) {tasks : List FileTask} {events : List Event}
    (complete : Complete tasks.length events) :
    e.runUnder events tasks = e.reportOf ((chosen events tasks).map e.perform) :=
  congrArg e.reportOf (collect_chosen e.perform complete)

theorem run_plain (e : Engine) (tasks : List FileTask) :
    e.run tasks false = e.reportOf (tasks.map e.perform) := by
  have complete := sequential_complete tasks.length
  have all : chosen (sequential tasks.length) tasks = tasks := chosen_all complete (sequential_open _) rfl
  have whole := runUnder_chosen e complete
  rw [all] at whole
  exact whole

-- The report of a run is that of the tasks that were not cancelled, run one after the other in their
-- order. If the run is not cancelled, every schedule gives the same report.
theorem runUnder_exact (e : Engine) (tasks : List FileTask) (events : List Event)
    (complete : Complete tasks.length events) :
    e.runUnder events tasks = e.run (chosen events tasks) false ∧
      e.run (chosen events tasks) false = e.reportOf ((chosen events tasks).map e.perform) ∧
      (.cancel ∉ events → e.runUnder events tasks = e.run tasks false) := by
  have plain := run_plain e (chosen events tasks)
  have under := runUnder_chosen e complete
  refine ⟨under.trans plain.symm,plain,?_⟩
  intro open_
  rw [under,chosen_all complete open_ rfl,run_plain]

-- The second of three files is started first, and the run is cancelled before the third.
def sampleEvents : List Event := [.start 1,.start 0,.cancel,.start 2,.finish 0,.finish 1]

def sampleTasks : List FileTask := [.ok { file := "A.java", source := "" },
  .error { file := "b.py", message := "m" }, .ok { file := "c.py", source := "" }]

theorem sampleEvents_complete : Complete 3 sampleEvents := by
  refine ⟨by decide,?_⟩
  intro before i after split open_
  unfold sampleEvents at split
  match before with
  | [] => cases split; decide
  | [_] => cases split; decide
  | [_,_] => cases split
  | _ :: _ :: _ :: before =>
    simp only [List.cons_append,List.cons.injEq] at split
    obtain ⟨_,_,rfl,_⟩ := split
    exact absurd (by simp) open_

theorem runUnder_exact_sample : Complete sampleTasks.length sampleEvents ∧
    runUnder { registry := .builtIn } sampleEvents sampleTasks =
      run { registry := .builtIn } (sampleTasks.take 2) false := by
  have taken : chosen sampleEvents sampleTasks = sampleTasks.take 2 := rfl
  have same := (runUnder_exact { registry := .builtIn } sampleTasks sampleEvents sampleEvents_complete).1
  exact ⟨sampleEvents_complete,taken ▸ same⟩

end Engine

end TreeAudit
