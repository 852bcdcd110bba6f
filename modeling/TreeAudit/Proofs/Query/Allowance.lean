import TreeAudit.Proofs.Query.Headway

-- The allowance for depth. What is read with some allowance is read with any larger one; and once it is enough for
-- the tokens, failures are the same as well, as each part that is read leaves fewer tokens to pay for.
namespace TreeAudit.Query
variable {v : Vocabulary} {ts : List Token} {n m least : Nat} {symbol : Symbol} {what : Expectation}

-- The second computation comes to whatever the first one comes to.
def Lasts (x y : Except Failure α) : Prop := ∀ a, x = .ok a → y = .ok a

section Lasts
variable {x y : Except Failure α}

theorem Lasts.same : Lasts x x := fun _ read => read

theorem Lasts.failed {problem : SyntaxProblem} : Lasts (failAt ts problem) x := by
  intro a read
  cases read

theorem Lasts.bind {g h : α → Except Failure β} (first : Lasts x y) (next : ∀ a, Lasts (g a) (h a)) :
    Lasts (x >>= g) (y >>= h) := by
  cases x with
  | error f =>
    intro b read
    cases read
  | ok a =>
    rw [first a rfl]
    exact next a

theorem Lasts.either {p : Prop} [Decidable p] {z w : Except Failure α} (yes : Lasts x y) (no : Lasts z w) :
    Lasts (if p then x else z) (if p then y else w) := by
  split
  · exact yes
  · exact no

end Lasts

-- What every reading function promises at two allowances for depth.
structure Lasting (v : Vocabulary) (n m : Nat) : Prop where
  level : ∀ level ts, Lasts (readLevel v n level ts) (readLevel v m level ts)
  operators : ∀ level left ts, Lasts (readOperators v n level left ts) (readOperators v m level left ts)
  path : ∀ ts, Lasts (readPath v n ts) (readPath v m ts)
  steps : ∀ ts, Lasts (readSteps v n ts) (readSteps v m ts)
  step : ∀ ts, Lasts (readStep v n ts) (readStep v m ts)
  predicates : ∀ ts, Lasts (readPredicates v n ts) (readPredicates v m ts)
  primary : ∀ ts, Lasts (readPrimary v n ts) (readPrimary v m ts)
  arguments : ∀ ts, Lasts (readArguments v n ts) (readArguments v m ts)
  argumentList : ∀ ts, Lasts (readArgumentList v n ts) (readArgumentList v m ts)

section Lasting
variable (lasting : Lasting v n m)
include lasting

theorem readLevel_lasts (level : Level) (ts : List Token) :
    Lasts (readLevel v (n + 1) level ts) (readLevel v (m + 1) level ts) := by
  by_cases inner : level = .path
  · subst inner
    exact lasting.path ts
  by_cases signed : level = .sign
  · subst signed
    rw [readLevel,readLevel]
    exact .either ((lasting.level .sign _).bind fun _ => .same) (lasting.level .union ts)
  · rw [readLevel_binary signed inner,readLevel_binary signed inner]
    exact (lasting.level level.next ts).bind fun left => lasting.operators level left.1 left.2

theorem readOperators_lasts (level : Level) (left : Expr) (ts : List Token) :
    Lasts (readOperators v (n + 1) level left ts) (readOperators v (m + 1) level left ts) := by
  rw [readOperators,readOperators]
  split
  · exact .same
  · exact (lasting.level level.next _).bind fun right => .either .same (lasting.operators level _ right.2)

theorem steps_lasts {g : Step × List Token → List Step × List Token → Except Failure α} (ts : List Token) :
    Lasts (readStep v n ts >>= fun s => readSteps v n s.2 >>= g s)
      (readStep v m ts >>= fun s => readSteps v m s.2 >>= g s) :=
  (lasting.step ts).bind fun s => (lasting.steps s.2).bind fun _ => .same

theorem readPath_lasts (ts : List Token) : Lasts (readPath v (n + 1) ts) (readPath v (m + 1) ts) := by
  rw [readPath,readPath]
  refine .either (.either (steps_lasts lasting _) .same) (.either (.either (steps_lasts lasting _) .same)
    (.either ?_ (.either (.either .same (steps_lasts lasting _)) .same)))
  refine (lasting.primary ts).bind fun e => (lasting.predicates e.2).bind fun predicates => ?_
  exact (lasting.steps predicates.2).bind fun _ => .same

theorem readSteps_lasts (ts : List Token) : Lasts (readSteps v (n + 1) ts) (readSteps v (m + 1) ts) := by
  rw [readSteps,readSteps]
  exact .either (steps_lasts lasting _) (.either (.either (steps_lasts lasting _) .same) .same)

theorem readStep_lasts (ts : List Token) : Lasts (readStep v (n + 1) ts) (readStep v (m + 1) ts) := by
  rw [readStep,readStep]
  exact Lasts.same.bind fun test => (lasting.predicates test.2.2).bind fun _ => .same

theorem readPredicates_lasts (ts : List Token) :
    Lasts (readPredicates v (n + 1) ts) (readPredicates v (m + 1) ts) := by
  rw [readPredicates,readPredicates]
  refine .either ((lasting.level .disjunction _).bind fun e => Lasts.same.bind fun rest => ?_) .same
  exact (lasting.predicates rest).bind fun _ => .same

theorem readPrimary_lasts (ts : List Token) : Lasts (readPrimary v (n + 1) ts) (readPrimary v (m + 1) ts) := by
  rw [readPrimary,readPrimary]
  dsimp only
  split
  · exact .same
  · exact .same
  · exact .same
  · exact .either .same ((lasting.level .disjunction _).bind fun _ => .same)
  · exact Lasts.same.bind fun rest => (lasting.arguments rest).bind fun _ => .same
  · exact .same

theorem readArguments_lasts (ts : List Token) :
    Lasts (readArguments v (n + 1) ts) (readArguments v (m + 1) ts) := by
  rw [readArguments,readArguments]
  exact .either .same (lasting.argumentList ts)

theorem readArgumentList_lasts (ts : List Token) :
    Lasts (readArgumentList v (n + 1) ts) (readArgumentList v (m + 1) ts) := by
  rw [readArgumentList,readArgumentList]
  exact (lasting.level .disjunction ts).bind fun e => .either ((lasting.argumentList _).bind fun _ => .same) .same

end Lasting

-- What is read with some allowance is read with any larger one.
theorem lasting_always (v : Vocabulary) {n m : Nat} (larger : n ≤ m) : Lasting v n m := by
  induction n generalizing m with
  | zero =>
    constructor
    all_goals
      intros
      exact .failed
  | succ n ih =>
    obtain ⟨m,rfl⟩ : ∃ k, m = k + 1 := ⟨m - 1,by omega⟩
    have lasting := ih (Nat.le_of_succ_le_succ larger)
    exact ⟨readLevel_lasts lasting,readOperators_lasts lasting,readPath_lasts lasting,readSteps_lasts lasting,
      readStep_lasts lasting,readPredicates_lasts lasting,readPrimary_lasts lasting,readArguments_lasts lasting,
      readArgumentList_lasts lasting⟩

theorem Headway.congr {x y : Except Failure (α × List Token)} {g h : α × List Token → Except Failure β}
    (goes : Headway v least ts x) (same : y = x)
    (next : ∀ a rest, Ended rest → rest.length + least ≤ ts.length → g (a,rest) = h (a,rest)) :
    y >>= g = x >>= h := by
  subst same
  cases y with
  | error f => rfl
  | ok r => exact next r.1 r.2 goes.1 goes.2.2

theorem expect_congr {g h : List Token → Except Failure α} (ended : Ended ts) (shown : symbol ≠ .finish)
    (next : Ended (advance ts) → (advance ts).length + 1 = ts.length → g (advance ts) = h (advance ts)) :
    expect symbol what ts >>= g = expect symbol what ts >>= h := by
  unfold expect
  by_cases found : front ts = symbol
  · rw [if_pos found]
    exact next ended.advance (ended.past (found ▸ shown))
  · rw [if_neg found]
    rfl

theorem readAxisTest_congr {g h : Axis × NodeTest × List Token → Except Failure α} (v : Vocabulary) (ended : Ended ts)
    (next : ∀ axis test rest, Ended rest → rest.length + 1 ≤ ts.length → g (axis,test,rest) = h (axis,test,rest)) :
    readAxisTest ts >>= g = readAxisTest ts >>= h := by
  have goes : Headway v 1 ts (readAxisTest ts >>= fun r => .ok (r.1,r.2.2)) :=
    readAxisTest_goes ended fun _ _ _ ended _ => Headway.done ended
  cases read : readAxisTest ts with
  | error f => rfl
  | ok r =>
    rw [read] at goes
    exact next r.1 r.2.1 r.2.2 goes.1 goes.2.2

-- What every reading function promises at two allowances, if the first is enough for the tokens.
structure Steady (v : Vocabulary) (n m : Nat) : Prop where
  level : ∀ level ts, Ended ts → 16 * ts.length + 10 ≤ n + level.rank → readLevel v m level ts = readLevel v n level ts
  operators : ∀ level left ts, Ended ts → 16 * ts.length + 1 ≤ n →
    readOperators v m level left ts = readOperators v n level left ts
  path : ∀ ts, Ended ts → 16 * ts.length + 2 ≤ n → readPath v m ts = readPath v n ts
  steps : ∀ ts, Ended ts → 16 * ts.length + 1 ≤ n → readSteps v m ts = readSteps v n ts
  step : ∀ ts, Ended ts → 16 * ts.length + 1 ≤ n → readStep v m ts = readStep v n ts
  predicates : ∀ ts, Ended ts → 16 * ts.length + 1 ≤ n → readPredicates v m ts = readPredicates v n ts
  primary : ∀ ts, Ended ts → 16 * ts.length + 1 ≤ n → readPrimary v m ts = readPrimary v n ts
  arguments : ∀ ts, Ended ts → 16 * ts.length + 12 ≤ n → readArguments v m ts = readArguments v n ts
  argumentList : ∀ ts, Ended ts → 16 * ts.length + 11 ≤ n → readArgumentList v m ts = readArgumentList v n ts

theorem readLevel_settled (steady : Steady v n m) (level : Level) (ended : Ended ts)
    (enough : 16 * ts.length + 10 ≤ n + 1 + level.rank) :
    readLevel v (m + 1) level ts = readLevel v (n + 1) level ts := by
  have proceeds := proceeds_always v n
  by_cases inner : level = .path
  · subst inner
    rw [Level.rank] at enough
    exact steady.path ts ended (by omega)
  have higher := Level.rank_next inner
  have low : level.rank ≤ 7 := level.rank_path
  by_cases signed : level = .sign
  · subst signed
    rw [Level.rank] at enough
    rw [readLevel,readLevel]
    refine ite_congr rfl (fun minus => ?_) fun _ => steady.level .union ts ended (by rw [Level.rank]; omega)
    have counted := ended.past (by simp [minus])
    rw [steady.level .sign _ ended.advance (by rw [Level.rank]; omega)]
  · rw [readLevel_binary signed inner,readLevel_binary signed inner]
    refine (proceeds.level level.next ts ended (by omega)).congr
      (steady.level level.next ts ended (by omega)) fun left rest ended counted => ?_
    exact steady.operators level left rest ended (by omega)

theorem readOperators_settled (steady : Steady v n m) (level : Level) (left : Expr) (ended : Ended ts)
    (enough : 16 * ts.length + 1 ≤ n + 1) :
    readOperators v (m + 1) level left ts = readOperators v (n + 1) level left ts := by
  have proceeds := proceeds_always v n
  rw [readOperators,readOperators]
  cases found : level.operator? (front ts) with
  | none => rfl
  | some combine =>
    have counted := ended.past (operator_shown found)
    refine (proceeds.level level.next _ ended.advance (by omega)).congr
      (steady.level level.next _ ended.advance (by omega)) fun right rest ended fewer => ?_
    exact ite_congr rfl (fun _ => rfl) fun _ => steady.operators level _ rest ended (by omega)

theorem steps_settled {g : Step × List Token → List Step × List Token → Except Failure α} (steady : Steady v n m)
    (ended : Ended ts) (enough : 16 * ts.length + 1 ≤ n) :
    (readStep v m ts >>= fun s => readSteps v m s.2 >>= g s) =
      (readStep v n ts >>= fun s => readSteps v n s.2 >>= g s) := by
  refine ((proceeds_always v n).step ts ended enough).congr (steady.step ts ended enough)
    fun s rest ended counted => ?_
  rw [steady.steps rest ended (by omega)]

theorem readPath_settled (steady : Steady v n m) (ended : Ended ts) (enough : 16 * ts.length + 2 ≤ n + 1) :
    readPath v (m + 1) ts = readPath v (n + 1) ts := by
  have proceeds := proceeds_always v n
  rw [readPath,readPath]
  refine ite_congr rfl (fun slash => ?_) fun _ => ite_congr rfl (fun slashes => ?_) fun _ =>
    ite_congr rfl (fun starts => ?_) fun _ => ite_congr rfl (fun _ => ?_) fun _ => rfl
  · have counted := ended.past (by simp [slash])
    exact ite_congr rfl (fun _ => steps_settled steady ended.advance (by omega)) fun _ => rfl
  · have counted := ended.past (by simp [slashes])
    exact ite_congr rfl (fun _ => steps_settled steady ended.advance (by omega)) fun _ => rfl
  · refine (proceeds.primary ts ended starts (by omega)).congr (steady.primary ts ended (by omega))
      fun e rest ended counted => ?_
    refine (proceeds.predicates rest ended (by omega)).congr (steady.predicates rest ended (by omega))
      fun predicates rest ended fewer => ?_
    dsimp only
    rw [steady.steps rest ended (by omega)]
  · exact ite_congr rfl (fun _ => rfl) fun _ => steps_settled steady ended (by omega)

theorem readSteps_settled (steady : Steady v n m) (ended : Ended ts) (enough : 16 * ts.length + 1 ≤ n + 1) :
    readSteps v (m + 1) ts = readSteps v (n + 1) ts := by
  rw [readSteps,readSteps]
  refine ite_congr rfl (fun slash => ?_) fun _ => ite_congr rfl (fun slashes => ?_) fun _ => rfl
  · have counted := ended.past (by simp [slash])
    exact steps_settled steady ended.advance (by omega)
  · have counted := ended.past (by simp [slashes])
    exact ite_congr rfl (fun _ => steps_settled steady ended.advance (by omega)) fun _ => rfl

theorem readStep_settled (steady : Steady v n m) (ended : Ended ts) (enough : 16 * ts.length + 1 ≤ n + 1) :
    readStep v (m + 1) ts = readStep v (n + 1) ts := by
  rw [readStep,readStep]
  refine readAxisTest_congr v ended fun axis test rest ended counted => ?_
  dsimp only
  rw [steady.predicates rest ended (by omega)]

theorem readPredicates_settled (steady : Steady v n m) (ended : Ended ts)
    (enough : 16 * ts.length + 1 ≤ n + 1) : readPredicates v (m + 1) ts = readPredicates v (n + 1) ts := by
  have proceeds := proceeds_always v n
  rw [readPredicates,readPredicates]
  refine ite_congr rfl (fun bracket => ?_) fun _ => rfl
  have counted := ended.past (by simp [bracket])
  refine (proceeds.level .disjunction _ ended.advance (by omega)).congr
    (steady.level .disjunction _ ended.advance (by omega)) fun e rest ended fewer => ?_
  refine expect_congr ended (by decide) fun ended less => ?_
  rw [steady.predicates _ ended (by omega)]

theorem readPrimary_settled (steady : Steady v n m) (ended : Ended ts) (enough : 16 * ts.length + 1 ≤ n + 1) :
    readPrimary v (m + 1) ts = readPrimary v (n + 1) ts := by
  rw [readPrimary,readPrimary]
  dsimp only
  split
  · rfl
  · rfl
  · rfl
  · rename_i paren
    have counted := ended.past (by simp [paren])
    refine ite_congr rfl (fun _ => rfl) fun _ => ?_
    rw [steady.level .disjunction _ ended.advance (by omega)]
  · rename_i name shown
    have counted := ended.past (by simp [shown])
    refine expect_congr ended.advance (by decide) fun ended fewer => ?_
    rw [steady.arguments _ ended (by omega)]
  · rfl

theorem readArguments_settled (steady : Steady v n m) (ended : Ended ts)
    (enough : 16 * ts.length + 12 ≤ n + 1) : readArguments v (m + 1) ts = readArguments v (n + 1) ts := by
  rw [readArguments,readArguments]
  exact ite_congr rfl (fun _ => rfl) fun _ => steady.argumentList ts ended (by omega)

theorem readArgumentList_settled (steady : Steady v n m) (ended : Ended ts)
    (enough : 16 * ts.length + 11 ≤ n + 1) :
    readArgumentList v (m + 1) ts = readArgumentList v (n + 1) ts := by
  have proceeds := proceeds_always v n
  rw [readArgumentList,readArgumentList]
  refine (proceeds.level .disjunction ts ended (by omega)).congr
    (steady.level .disjunction ts ended (by omega)) fun e rest ended counted => ?_
  refine ite_congr rfl (fun comma => ?_) fun _ => rfl
  have fewer := ended.past (by simp [comma])
  rw [steady.argumentList _ ended.advance (by omega)]

theorem steady_always (v : Vocabulary) {n m : Nat} (larger : n ≤ m) : Steady v n m := by
  induction n generalizing m with
  | zero =>
    constructor
    all_goals intros; exfalso
    · rename_i level _ _ enough
      have low : level.rank ≤ 7 := level.rank_path
      omega
    all_goals omega
  | succ n ih =>
    obtain ⟨m,rfl⟩ : ∃ k, m = k + 1 := ⟨m - 1,by omega⟩
    have steady := ih (Nat.le_of_succ_le_succ larger)
    exact ⟨fun level _ ended enough => readLevel_settled steady level ended enough,
      fun level left _ ended enough => readOperators_settled steady level left ended enough,
      fun _ ended enough => readPath_settled steady ended enough,
      fun _ ended enough => readSteps_settled steady ended enough,
      fun _ ended enough => readStep_settled steady ended enough,
      fun _ ended enough => readPredicates_settled steady ended enough,
      fun _ ended enough => readPrimary_settled steady ended enough,
      fun _ ended enough => readArguments_settled steady ended enough,
      fun _ ended enough => readArgumentList_settled steady ended enough⟩

-- What `parse` reads is what any larger allowance would read.
theorem parse_settled (v : Vocabulary) (ended : Ended ts) (larger : depthAllowance ts ≤ n) :
    readLevel v n .disjunction ts = readLevel v (depthAllowance ts) .disjunction ts := by
  refine (steady_always v larger).level .disjunction ts ended ?_
  rw [depthAllowance,Level.rank]
  omega

end TreeAudit.Query
