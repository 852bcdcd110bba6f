import TreeAudit.Proofs.Engine.Reports
import TreeAudit.Proofs.Engine.Schedules

-- The rules at fault in a run. A rule is told apart by its place, and only its first fault is reported:
-- the faults of two runs put together are those of the first, and those of the second whose rules the
-- first has not reported.
namespace TreeAudit.Engine

section Places
variable {seen : List Nat} {b : BrokenRule}

theorem newlyBroken_unseen (seen : List Nat) (bs : List BrokenRule) :
    ∀ b ∈ newlyBroken seen bs, b.place ∉ seen := by
  induction bs generalizing seen with
  | nil => exact fun b member => absurd member List.not_mem_nil
  | cons c bs ih =>
    rw [newlyBroken]
    split
    · exact ih seen
    · rename_i unseen
      refine List.forall_mem_cons.mpr ⟨fun member => unseen (List.contains_iff_mem.mpr member),?_⟩
      exact fun b member among => ih (c.place :: seen) b member (List.mem_cons_of_mem _ among)

theorem newlyBroken_once (seen : List Nat) (bs : List BrokenRule) :
    ((newlyBroken seen bs).map BrokenRule.place).Nodup := by
  induction bs generalizing seen with
  | nil => exact List.nodup_nil
  | cons c bs ih =>
    rw [newlyBroken]
    split
    · exact ih seen
    · refine List.nodup_cons.mpr ⟨fun member => ?_,ih (c.place :: seen)⟩
      obtain ⟨b,among,same⟩ := List.mem_map.mp member
      exact newlyBroken_unseen _ bs b among (same ▸ List.mem_cons_self)

theorem newlyBroken_every (seen : List Nat) (bs : List BrokenRule) :
    ∀ b ∈ bs, b.place ∈ seen ∨ b.place ∈ (newlyBroken seen bs).map BrokenRule.place := by
  induction bs generalizing seen with
  | nil => exact fun b member => absurd member List.not_mem_nil
  | cons c bs ih =>
    intro b member
    rw [newlyBroken]
    split
    · rename_i known
      rcases List.mem_cons.mp member with rfl | later
      · exact .inl (List.contains_iff_mem.mp known)
      · exact ih seen b later
    · rw [List.map_cons,List.mem_cons]
      rcases List.mem_cons.mp member with rfl | later
      · exact .inr (.inl rfl)
      · rcases ih (c.place :: seen) b later with among | kept
        · exact (List.mem_cons.mp among).elim (fun same => .inr (.inl same)) .inl
        · exact .inr (.inr kept)

theorem newlyBroken_sublist (seen : List Nat) (bs : List BrokenRule) : (newlyBroken seen bs).Sublist bs := by
  induction bs generalizing seen with
  | nil => exact .slnil
  | cons c bs ih =>
    rw [newlyBroken]
    split
    · exact (ih seen).cons c
    · exact (ih (c.place :: seen)).cons_cons c

theorem newlyBroken_places {n : Nat} (bs : List BrokenRule) :
    n ∈ (newlyBroken [] bs).map BrokenRule.place ↔ n ∈ bs.map BrokenRule.place := by
  refine ⟨fun member => ((newlyBroken_sublist [] bs).map _).subset member,fun member => ?_⟩
  obtain ⟨b,among,rfl⟩ := List.mem_map.mp member
  exact (newlyBroken_every [] bs b among).resolve_left List.not_mem_nil

theorem newlyBroken_append (seen : List Nat) (as bs : List BrokenRule) :
    newlyBroken seen (as ++ bs) =
      newlyBroken seen as ++ newlyBroken (as.map BrokenRule.place ++ seen) bs := by
  induction as generalizing seen with
  | nil => rfl
  | cons a as ih =>
    rw [List.cons_append,newlyBroken,newlyBroken,List.map_cons,List.cons_append]
    split
    · rename_i known
      rw [ih]
      refine congrArg (newlyBroken seen as ++ ·) (newlyBroken_congr (fun n => ?_) bs)
      rw [List.mem_cons,List.mem_append]
      refine ⟨.inr,fun either => either.elim (fun same => ?_) id⟩
      exact .inr (same ▸ List.contains_iff_mem.mp known)
    · rw [ih,List.cons_append]
      refine congrArg (fun rest => a :: (newlyBroken (a.place :: seen) as ++ rest)) ?_
      refine newlyBroken_congr (fun n => ?_) bs
      rw [List.mem_append,List.mem_cons,List.mem_cons,List.mem_append]
      exact or_left_comm

-- To have seen more places is to leave out what names them.
theorem newlyBroken_more (more seen : List Nat) (bs : List BrokenRule) :
    newlyBroken (more ++ seen) bs = (newlyBroken seen bs).filter fun b => b.place ∉ more := by
  induction bs generalizing seen with
  | nil => rfl
  | cons b bs ih =>
    have onward : newlyBroken (b.place :: (more ++ seen)) bs =
        (newlyBroken (b.place :: seen) bs).filter fun b => b.place ∉ more := by
      rw [← ih]
      refine newlyBroken_congr (fun n => ?_) bs
      rw [List.mem_cons,List.mem_append,List.mem_append,List.mem_cons]
      exact or_left_comm
    by_cases known : b.place ∈ seen
    · have also : b.place ∈ more ++ seen := List.mem_append_right more known
      rw [newlyBroken,newlyBroken,if_pos (List.contains_iff_mem.mpr also),
        if_pos (List.contains_iff_mem.mpr known)]
      exact ih seen
    · rw [newlyBroken,newlyBroken,if_neg (known ∘ List.contains_iff_mem.mp),List.filter_cons]
      by_cases among : b.place ∈ more
      · have also : b.place ∈ more ++ seen := List.mem_append_left seen among
        rw [if_pos (List.contains_iff_mem.mpr also),if_neg (by simpa using among),← onward]
        refine newlyBroken_congr (fun n => ?_) bs
        exact ⟨List.mem_cons_of_mem _,fun either => (List.mem_cons.mp either).elim (· ▸ also) id⟩
      · have apart : b.place ∉ more ++ seen :=
          fun either => (List.mem_append.mp either).elim among known
        rw [if_neg (apart ∘ List.contains_iff_mem.mp),if_pos (by simpa using among),onward]

-- Each rule that is kept stands, with its mark, before any other mention of its place.
theorem newlyBroken_first (seen : List Nat) (marked : List (Nat × BrokenRule)) :
    ∃ kept : List (Nat × BrokenRule), kept.Sublist marked ∧
      newlyBroken seen (marked.map Prod.snd) = kept.map Prod.snd ∧
      ∀ f ∈ kept, f.2.place ∉ seen ∧
        ∃ before after, marked = before ++ f :: after ∧ ∀ g ∈ before, g.2.place ≠ f.2.place := by
  induction marked generalizing seen with
  | nil => exact ⟨[],.slnil,rfl,fun f member => absurd member List.not_mem_nil⟩
  | cons c marked ih =>
    rw [List.map_cons,newlyBroken]
    split
    · rename_i known
      obtain ⟨kept,within,same,first⟩ := ih seen
      refine ⟨kept,within.cons c,same,fun f member => ?_⟩
      obtain ⟨unseen,before,after,rfl,none⟩ := first f member
      refine ⟨unseen,c :: before,after,rfl,List.forall_mem_cons.mpr ⟨fun equal => ?_,none⟩⟩
      exact unseen (equal ▸ List.contains_iff_mem.mp known)
    · rename_i unknown
      obtain ⟨kept,within,same,first⟩ := ih (c.2.place :: seen)
      refine ⟨c :: kept,within.cons_cons c,congrArg (c.2 :: ·) same,List.forall_mem_cons.mpr ⟨?_,fun f member => ?_⟩⟩
      · exact ⟨unknown ∘ List.contains_iff_mem.mpr,[],marked,rfl,fun g member => absurd member List.not_mem_nil⟩
      · obtain ⟨unseen,before,after,rfl,none⟩ := first f member
        obtain ⟨other,fresh⟩ := not_or.mp (unseen ∘ List.mem_cons.mpr)
        exact ⟨fresh,c :: before,after,rfl,List.forall_mem_cons.mpr ⟨fun equal => other equal.symm,none⟩⟩

end Places

-- A rule fails on a task for a reason that lies in the rule.
inductive Breaks (e : Engine) : FileTask → BrokenRule → Prop
  | broken : e.Parses input l t → e.rules[place]? = some r → r.language = l.id →
      r.apply l t = (findings,.failed f) → f.isConfiguration = true →
      Breaks e (.ok input) ⟨place,f.message⟩

-- The faults of the rules in a run, each with the number of the task that shows it first.
structure FirstFaults (e : Engine) (tasks : List FileTask) (firsts : List (Nat × BrokenRule)) : Prop where
  first : ∀ f ∈ firsts, (∃ task, tasks[f.1]? = some task ∧ e.Breaks task f.2) ∧
    ∀ j < f.1, ∀ task, tasks[j]? = some task → ∀ b, e.Breaks task b → b.place ≠ f.2.place
  every : ∀ task ∈ tasks, ∀ b, e.Breaks task b → b.place ∈ firsts.map fun f => f.2.place
  once : (firsts.map fun f => f.2.place).Nodup
  ordered : firsts.Pairwise fun f g => f.1 < g.1 ∨ f.1 = g.1 ∧ f.2.place < g.2.place

def faultError (e : Engine) (f : Nat × BrokenRule) : ConfigurationError := ⟨e.ruleId f.2.place,f.2.detail⟩

section Runs
variable {e : Engine} {task : FileTask} {b : BrokenRule} {r : Rule} {n : Nat}

theorem adds_broken (member : e.rules[n]? = some r) (adds : e.Adds r n task (.broken b)) : e.Breaks task b := by
  cases adds with
  | parsed parses ends =>
    cases ends with
    | ran same leaves =>
      generalize ran : r.apply _ _ = ending at leaves
      cases leaves with
      | broken fault => exact .broken parses member same ran fault

theorem Breaks.adds (breaks : e.Breaks task b) :
    ∃ r, e.rules[b.place]? = some r ∧ e.Adds r b.place task (.broken b) := by
  cases breaks with
  | @broken _ _ _ _ r _ f parses member same ran fault =>
    cases f with
    | other message causes => cases fault
    | query f => exact ⟨r,member,.parsed parses (.ran same (ran ▸ .broken fault))⟩

theorem broken_of_shares {share : Rule → Nat → Share} (adds : ∀ r place, e.Adds r place task (share r place)) :
    (e.perform task).broken = e.rules.zipIdx.flatMap fun r => (share r.1 r.2).brokenRules := by
  obtain ⟨o,sound,_,gains⟩ := perform_gains e task adds
  have whole := gains e.rules
  rw [foldl_gain,sound,List.nil_append] at whole
  rw [show e.perform task = _ from whole]
  exact List.flatMap_map ..

theorem mem_brokenRules {s : Share} : b ∈ s.brokenRules ↔ s = .broken b := by
  cases s with
  | broken c => exact List.mem_singleton.trans ⟨fun same => same ▸ rfl,fun same => (Share.broken.inj same).symm⟩
  | apart | found _ | error _ => exact ⟨fun member => absurd member List.not_mem_nil,fun same => by cases same⟩

theorem mem_broken (e : Engine) (task : FileTask) (b : BrokenRule) :
    b ∈ (e.perform task).broken ↔ e.Breaks task b := by
  choose share adds using fun r place => adds_total e r place task
  rw [broken_of_shares adds,List.mem_flatMap]
  constructor
  · rintro ⟨⟨r,n⟩,member,among⟩
    have stands := List.mem_zipIdx_iff_getElem?.mp member
    exact adds_broken stands (mem_brokenRules.mp among ▸ adds r n)
  · intro breaks
    obtain ⟨r,stands,broken⟩ := breaks.adds
    refine ⟨(r,b.place),List.mem_zipIdx_iff_getElem?.mpr stands,?_⟩
    exact mem_brokenRules.mpr ((adds r b.place).unique broken)

theorem broken_ordered (e : Engine) (task : FileTask) :
    (e.perform task).broken.Pairwise fun b c => b.place < c.place := by
  choose share adds using fun r place => adds_total e r place task
  rw [broken_of_shares adds,List.pairwise_flatMap]
  refine ⟨fun r _ => ?_,?_⟩
  · cases share r.1 r.2 with
    | broken b => exact List.pairwise_singleton _ b
    | apart | found _ | error _ => exact .nil
  · have places : e.rules.zipIdx.Pairwise fun r q => r.2 < q.2 := by
      rw [← List.pairwise_map,List.zipIdx_map_snd]
      exact List.pairwise_lt_range'
    refine places.imp fun {r q} before b one c two => ?_
    rw [(adds r.1 r.2).at_place b one,(adds q.1 q.2).at_place c two]
    exact before

-- The faults of all tasks, each with the number of its task.
def marked (e : Engine) (tasks : List FileTask) : List (Nat × BrokenRule) :=
  tasks.zipIdx.flatMap fun task => (e.perform task.1).broken.map fun b => (task.2,b)

theorem mem_marked {tasks : List FileTask} {i : Nat} :
    (i,b) ∈ e.marked tasks ↔ ∃ task, tasks[i]? = some task ∧ e.Breaks task b := by
  rw [marked,List.mem_flatMap]
  constructor
  · rintro ⟨⟨task,j⟩,member,among⟩
    obtain ⟨c,broken,same⟩ := List.mem_map.mp among
    cases same
    exact ⟨task,List.mem_zipIdx_iff_getElem?.mp member,(mem_broken e task b).mp broken⟩
  · rintro ⟨task,stands,breaks⟩
    refine ⟨(task,i),List.mem_zipIdx_iff_getElem?.mpr stands,?_⟩
    exact List.mem_map_of_mem ((mem_broken e task b).mpr breaks)

theorem marked_ordered (e : Engine) (tasks : List FileTask) :
    (e.marked tasks).Pairwise fun f g => f.1 < g.1 ∨ f.1 = g.1 ∧ f.2.place < g.2.place := by
  rw [marked,List.pairwise_flatMap]
  refine ⟨fun task _ => ?_,?_⟩
  · rw [List.pairwise_map]
    exact (broken_ordered e task.1).imp fun before => .inr ⟨rfl,before⟩
  · have numbers : tasks.zipIdx.Pairwise fun s t => s.2 < t.2 := by
      rw [← List.pairwise_map,List.zipIdx_map_snd]
      exact List.pairwise_lt_range'
    refine numbers.imp fun {s t} before f one g two => .inl ?_
    obtain ⟨b,_,rfl⟩ := List.mem_map.mp one
    obtain ⟨c,_,rfl⟩ := List.mem_map.mp two
    exact before

theorem marked_faults (e : Engine) (tasks : List FileTask) :
    (e.marked tasks).map Prod.snd = (tasks.map e.perform).flatMap (·.broken) := by
  rw [marked,List.map_flatMap,List.flatMap_map]
  simp only [List.map_map,Function.comp_def,List.map_id']
  rw [← List.flatMap_map (f := Prod.fst) (g := fun task => (e.perform task).broken),List.zipIdx_map_fst]

-- What is kept of the faults of a run are the first ones.
theorem firstFaults (e : Engine) (tasks : List FileTask) : ∃ firsts, e.FirstFaults tasks firsts ∧
    newlyBroken [] ((tasks.map e.perform).flatMap (·.broken)) = firsts.map Prod.snd := by
  obtain ⟨firsts,within,same,first⟩ := newlyBroken_first [] (e.marked tasks)
  rw [marked_faults] at same
  have places : (firsts.map fun f => f.2.place) =
      (newlyBroken [] ((tasks.map e.perform).flatMap (·.broken))).map BrokenRule.place := by
    rw [same,List.map_map]
    rfl
  refine ⟨firsts,⟨?first,?every,?once,?ordered⟩,same⟩
  case first =>
    rintro ⟨i,b⟩ member
    refine ⟨mem_marked.mp (within.subset member),fun j sooner task stands c breaks => ?_⟩
    obtain ⟨_,before,after,split,none⟩ := first (i,b) member
    have among : (j,c) ∈ before ++ (i,b) :: after := split ▸ mem_marked.mpr ⟨task,stands,breaks⟩
    rcases List.mem_append.mp among with front | back
    · exact none (j,c) front
    · have ordered := (List.pairwise_append.mp (split ▸ marked_ordered e tasks)).2.1
      rcases List.mem_cons.mp back with itself | behind
      · cases itself
        exact absurd sooner (Nat.lt_irrefl _)
      · have later := (List.pairwise_cons.mp ordered).1 (j,c) behind
        exact later.elim (fun behind => absurd sooner (Nat.lt_asymm behind))
          fun beside => absurd beside.1 (Nat.ne_of_gt sooner)
  case every =>
    intro task member b breaks
    have among : b ∈ (tasks.map e.perform).flatMap (·.broken) :=
      List.mem_flatMap.mpr ⟨_,List.mem_map_of_mem member,(mem_broken e task b).mpr breaks⟩
    rw [places]
    exact (newlyBroken_every [] _ b among).resolve_left List.not_mem_nil
  case once =>
    rw [places]
    exact newlyBroken_once [] _
  case ordered => exact (marked_ordered e tasks).sublist within

theorem runErrors_faults {tasks : List FileTask} {firsts : List (Nat × BrokenRule)}
    (same : newlyBroken [] ((tasks.map e.perform).flatMap (·.broken)) = firsts.map Prod.snd) :
    e.runErrors (tasks.map e.perform) = e.setupErrors ++ firsts.map e.faultError := by
  rw [runErrors,same,List.map_map]
  rfl

-- Runs one after the other. Violations, errors on files and the count of files add up, whatever the files
-- are. Errors of set-up come first and once; then comes each rule at fault with its first fault, and of
-- the later run only the rules that the earlier one has not reported.
theorem run_append (e : Engine) (as bs : List FileTask) : ∃ early late,
    e.FirstFaults as early ∧ e.FirstFaults bs late ∧
    (e.run as false).configurationErrors = e.setupErrors ++ early.map e.faultError ∧
    (e.run bs false).configurationErrors = e.setupErrors ++ late.map e.faultError ∧
    e.run (as ++ bs) false =
      { violations := (e.run as false).violations ++ (e.run bs false).violations
        processingErrors := (e.run as false).processingErrors ++ (e.run bs false).processingErrors
        configurationErrors := (e.run as false).configurationErrors ++
          (late.filter fun f => f.2.place ∉ early.map fun f => f.2.place).map e.faultError
        files := (e.run as false).files + (e.run bs false).files } := by
  obtain ⟨early,one,first⟩ := firstFaults e as
  obtain ⟨late,two,second⟩ := firstFaults e bs
  have all : newlyBroken [] (((as ++ bs).map e.perform).flatMap (·.broken)) =
      (early ++ late.filter fun f => f.2.place ∉ early.map fun f => f.2.place).map Prod.snd := by
    have places : ∀ n, n ∈ ((as.map e.perform).flatMap (·.broken)).map BrokenRule.place ++ [] ↔
        n ∈ (early.map fun f => f.2.place) ++ [] := by
      intro n
      rw [List.append_nil,List.append_nil,← newlyBroken_places,first,List.map_map]
      rfl
    rw [List.map_append,List.flatMap_append,newlyBroken_append,newlyBroken_congr places,newlyBroken_more,
      first,second,List.filter_map,List.map_append]
    rfl
  refine ⟨early,late,one,two,?_,?_,?_⟩
  · rw [run_plain,reportOf_perform]
    exact runErrors_faults first
  · rw [run_plain,reportOf_perform]
    exact runErrors_faults second
  · rw [run_plain,run_plain,run_plain,reportOf_perform,reportOf_perform,reportOf_perform,
      runErrors_faults first,runErrors_faults all,List.flatMap_append,List.flatMap_append,List.map_append,
      List.map_append,List.sum_append,List.append_assoc]

end Runs

end TreeAudit.Engine
