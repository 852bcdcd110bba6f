import TreeAudit.Proofs.Query.Offsets
import TreeAudit.Proofs.Query.Operators

-- How reading goes on. A part of an expression takes a token at least and never the end, and every symbol pays
-- for the levels that it can open; so reading that stops has a reason, and the token that the reason names stands
-- where it says, or just before.
namespace TreeAudit.Query

def SyntaxProblem.found? : SyntaxProblem → Option Symbol
  | .expected _ found => some found
  | .unexpected found => some found
  | _ => none

-- A name that is missing is reported only when the token in its place has been passed.
def SyntaxProblem.isLate : SyntaxProblem → Bool
  | .expected .nameTest _ => true
  | .expected .variableName _ => true
  | _ => false

-- The token that a problem names is the one at the offset, or the one before it if the problem is late; behind
-- the last token there is none.
def SyntaxProblem.Blames (p : SyntaxProblem) (offset : Nat) (ts : List Token) : Prop :=
  ∀ found, p.found? = some found → ∃ before k after, ts = before ++ k :: after ∧ k.symbol = found ∧
    offset = (if p.isLate then after.head?.getD k else k).offset

-- Why reading stops: a call or a variable is refused, or the symbols make no expression.
inductive Refused (v : Vocabulary) (ts : List Token) : Failure → Prop
  | call {name : String} {args : List Expr} {f : Failure} : v.call name args = .error f → Refused v ts f
  | unbound (name : String) : Refused v ts (.unknownVariable name)
  | misspelt {offset : Nat} {problem : SyntaxProblem} : problem ≠ .tooDeep → problem.Blames offset ts →
    Refused v ts (.badSyntax offset problem)

-- Reading leaves the last part of the tokens, with the end, and is `least` tokens further.
def Headway (v : Vocabulary) (least : Nat) (ts : List Token) (x : Except Failure (α × List Token)) : Prop :=
  Ends (fun r => Ended r.2 ∧ r.2 <:+ ts ∧ r.2.length + least ≤ ts.length) (Refused v ts) x

variable {v : Vocabulary} {ts rest : List Token} {n least : Nat} {problem : SyntaxProblem} {what : Expectation}
  {symbol : Symbol} {level : Level}

theorem Ended.first (ended : Ended ts) : ∃ k after, ts = k :: after ∧ (after = [] ∨ Ended after) := by
  cases ended with
  | last k => exact ⟨k,[],rfl,.inl rfl⟩
  | more k _ later => exact ⟨k,_,rfl,.inr later⟩

theorem Ended.advance (ended : Ended ts) : Ended (advance ts) := by
  cases ended with
  | last k finish => exact .last k finish
  | more k _ later =>
    obtain ⟨_,_,rfl,_⟩ := later.first
    exact later

-- What is not the end can be passed.
theorem Ended.past (ended : Ended ts) (some : front ts ≠ .finish) : (Query.advance ts).length + 1 = ts.length := by
  cases ended with
  | last k finish => exact absurd finish some
  | more k _ later =>
    obtain ⟨_,_,rfl,_⟩ := later.first
    rfl

theorem SyntaxProblem.Blames.behind {offset : Nat} (short : rest <:+ ts) (blames : problem.Blames offset rest) :
    problem.Blames offset ts := by
  obtain ⟨passed,rfl⟩ := short
  intro found named
  obtain ⟨before,k,after,rfl,same,place⟩ := blames found named
  exact ⟨passed ++ before,k,after,(List.append_assoc ..).symm,same,place⟩

theorem Refused.behind {f : Failure} (short : rest <:+ ts) (refused : Refused v rest f) : Refused v ts f := by
  cases refused with
  | call failed => exact .call failed
  | unbound name => exact .unbound name
  | misspelt shallow blames => exact .misspelt shallow (blames.behind short)

section Headway
variable {x : Except Failure (α × List Token)} {g : α × List Token → Except Failure (β × List Token)}

theorem Headway.bind (first : Headway v least ts x)
    (next : ∀ a rest, Ended rest → rest.length + least ≤ ts.length → Headway v 0 rest (g (a,rest))) :
    Headway v least ts (x >>= g) := by
  cases x with
  | error f => exact first
  | ok r =>
    obtain ⟨ended,short,counted⟩ := first
    have goes := next r.1 r.2 ended counted
    change Ends _ _ (g r)
    cases last : g r with
    | error f => exact (goes.failure last).behind short
    | ok s =>
      obtain ⟨ends,shorter,fewer⟩ := goes.value last
      exact ⟨ends,shorter.trans short,by omega⟩

theorem Headway.slack (goes : Headway v 1 ts x) : Headway v 0 ts x :=
  goes.mono fun _ ⟨ended,short,counted⟩ => ⟨ended,short,Nat.le_of_succ_le counted⟩

theorem Headway.done {a : α} (ended : Ended ts) : Headway v 0 ts (.ok (a,ts)) :=
  ⟨ended,List.suffix_refl ts,Nat.le_refl _⟩

theorem Headway.past (ended : Ended ts) (some : front ts ≠ .finish)
    (next : Ended (advance ts) → (advance ts).length + 1 = ts.length → Headway v 0 (advance ts) x) :
    Headway v 1 ts x := by
  have counted := ended.past some
  have goes := next ended.advance counted
  cases x with
  | error f => exact Refused.behind (advance_suffix ts) goes
  | ok r =>
    obtain ⟨ends,short,fewer⟩ := goes
    exact ⟨ends,short.trans (advance_suffix ts),by omega⟩

-- A problem that names no token.
theorem Headway.unnamed (none : problem.found? = none) (shallow : problem ≠ .tooDeep) :
    Headway v least ts (α := α) (failAt rest problem) :=
  .misspelt shallow fun _ named => by
    rw [none] at named
    cases named

theorem Headway.here (ended : Ended ts) (named : problem.found? = some (front ts)) (early : problem.isLate = false) :
    Headway v least ts (α := α) (failAt ts problem) := by
  refine .misspelt (fun deep => by cases deep; cases named) fun found same => ?_
  obtain ⟨k,after,rfl,_⟩ := ended.first
  refine ⟨[],k,after,rfl,Option.some.inj (named.symm.trans same),?_⟩
  rw [early]
  rfl

theorem Headway.late (ended : Ended ts) (named : problem.found? = some (front ts)) (late : problem.isLate = true) :
    Headway v least ts (α := α) (failAt (advance ts) problem) := by
  refine .misspelt (fun deep => by cases deep; cases named) fun found same => ?_
  obtain ⟨k,after,rfl,_⟩ := ended.first
  refine ⟨[],k,after,rfl,Option.some.inj (named.symm.trans same),?_⟩
  rw [late]
  cases after <;> rfl

theorem Headway.expect {g : List Token → Except Failure (α × List Token)} (ended : Ended ts)
    (shown : symbol ≠ .finish) (early : (SyntaxProblem.expected what (front ts)).isLate = false)
    (next : Ended (advance ts) → (advance ts).length + 1 = ts.length → Headway v 0 (advance ts) (g (advance ts))) :
    Headway v 1 ts (expect symbol what ts >>= g) := by
  unfold Query.expect
  split
  · rename_i found
    exact Headway.past ended (found ▸ shown) next
  · exact Headway.here ended rfl early

end Headway

theorem operator_shown {combine : Expr → Expr → Expr} (found : level.operator? symbol = some combine) :
    symbol ≠ .finish := by
  rintro rfl
  have closed : level.Closes .finish := closing_closes (.inl rfl)
  cases (closed.2.2 level (Nat.le_refl _)).symm.trans found

theorem startsStep_shown (starts : startsStep ts = true) : front ts ≠ .finish := by
  intro finish
  rw [startsStep,finish] at starts
  cases starts

theorem readTest_headway (ended : Ended ts) : Headway v 1 ts (readTest ts) := by
  unfold readTest
  dsimp only
  split
  · rename_i star
    exact Headway.past ended (by simp [star]) fun ended _ => Headway.done ended
  · rename_i name
    refine Headway.past ended (by simp [name]) fun ended _ => ?_
    split
    · rename_i both
      have opening : front (advance ts) = .leftParen := of_decide_eq_true (Bool.and_eq_true_iff.mp both).2
      refine Headway.slack (Headway.past ended (by simp [opening]) fun ended _ => ?_)
      exact Headway.slack (Headway.expect ended (by decide) (by rfl) fun ended _ => Headway.done ended)
    · exact Headway.done ended
  · exact Headway.late ended rfl rfl

theorem readTest_goes {axis : Axis} {g : Axis × NodeTest × List Token → Except Failure (α × List Token)}
    (ended : Ended ts)
    (next : ∀ axis test rest, Ended rest → rest.length + 1 ≤ ts.length → Headway v 0 rest (g (axis,test,rest))) :
    Headway v 1 ts ((do let (test,rest) ← readTest ts; pure (axis,test,rest)) >>= g) := by
  rw [bind_assoc]
  exact (readTest_headway ended).bind fun test rest ended counted => next axis test rest ended counted

theorem readAxisTest_goes {g : Axis × NodeTest × List Token → Except Failure (α × List Token)} (ended : Ended ts)
    (next : ∀ axis test rest, Ended rest → rest.length + 1 ≤ ts.length → Headway v 0 rest (g (axis,test,rest))) :
    Headway v 1 ts (readAxisTest ts >>= g) := by
  unfold readAxisTest
  split
  · rename_i dot
    exact Headway.past ended (by simp [dot]) fun ended counted => next _ _ _ ended (Nat.le_of_eq counted)
  · rename_i dots
    exact Headway.past ended (by simp [dots]) fun ended counted => next _ _ _ ended (Nat.le_of_eq counted)
  · rename_i sign
    refine Headway.past ended (by simp [sign]) fun ended counted => ?_
    refine Headway.slack (readTest_goes ended fun _ _ _ ended fewer => ?_)
    exact next _ _ _ ended (by omega)
  · rename_i name
    split
    · rename_i colons
      rw [second_eq] at colons
      split
      · refine Headway.past ended (by simp [name]) fun ended counted => ?_
        refine Headway.slack (Headway.past ended (by simp [colons]) fun ended more => ?_)
        exact Headway.slack (readTest_goes ended fun _ _ _ ended fewer => next _ _ _ ended (by omega))
      · exact Headway.unnamed rfl (by simp)
    · exact readTest_goes ended next
  · exact readTest_goes ended next

-- What every reading function promises at one allowance for depth, if the allowance is enough for the tokens.
structure Proceeds (v : Vocabulary) (n : Nat) : Prop where
  level : ∀ level ts, Ended ts → 16 * ts.length + 10 ≤ n + level.rank → Headway v 1 ts (readLevel v n level ts)
  operators : ∀ level left ts, Ended ts → 16 * ts.length + 1 ≤ n → Headway v 0 ts (readOperators v n level left ts)
  path : ∀ ts, Ended ts → 16 * ts.length + 2 ≤ n → Headway v 1 ts (readPath v n ts)
  steps : ∀ ts, Ended ts → 16 * ts.length + 1 ≤ n → Headway v 0 ts (readSteps v n ts)
  step : ∀ ts, Ended ts → 16 * ts.length + 1 ≤ n → Headway v 1 ts (readStep v n ts)
  predicates : ∀ ts, Ended ts → 16 * ts.length + 1 ≤ n → Headway v 0 ts (readPredicates v n ts)
  primary : ∀ ts, Ended ts → startsPrimary ts = true → 16 * ts.length + 1 ≤ n → Headway v 1 ts (readPrimary v n ts)
  arguments : ∀ ts, Ended ts → 16 * ts.length + 12 ≤ n → Headway v 1 ts (readArguments v n ts)
  argumentList : ∀ ts, Ended ts → 16 * ts.length + 11 ≤ n → Headway v 1 ts (readArgumentList v n ts)

theorem readLevel_goes (proceeds : Proceeds v n) (level : Level) (ended : Ended ts)
    (enough : 16 * ts.length + 10 ≤ n + 1 + level.rank) : Headway v 1 ts (readLevel v (n + 1) level ts) := by
  by_cases inner : level = .path
  · subst inner
    rw [Level.rank] at enough
    exact proceeds.path ts ended (by omega)
  have higher := Level.rank_next inner
  have low : level.rank ≤ 7 := level.rank_path
  by_cases signed : level = .sign
  · subst signed
    rw [Level.rank] at enough
    rw [readLevel]
    split
    · rename_i minus
      refine Headway.past ended (by simp [minus]) fun ended counted => ?_
      refine Headway.slack ((proceeds.level .sign _ ended (by rw [Level.rank]; omega)).bind fun e rest ended _ => ?_)
      exact Headway.done ended
    · exact proceeds.level .union ts ended (by rw [Level.rank]; omega)
  · rw [readLevel_binary signed inner]
    refine (proceeds.level level.next ts ended (by omega)).bind fun left rest ended counted => ?_
    exact proceeds.operators level left rest ended (by omega)

theorem readOperators_goes (proceeds : Proceeds v n) (level : Level) (left : Expr) (ended : Ended ts)
    (enough : 16 * ts.length + 1 ≤ n + 1) : Headway v 0 ts (readOperators v (n + 1) level left ts) := by
  rw [readOperators]
  split
  · exact Headway.done ended
  · rename_i combine found
    refine Headway.slack (Headway.past ended (operator_shown found) fun ended counted => ?_)
    refine Headway.slack ((proceeds.level level.next _ ended (by omega)).bind fun right rest ended fewer => ?_)
    dsimp only
    split
    · exact Headway.done ended
    · exact proceeds.operators level _ rest ended (by omega)

-- A step and the steps behind it, whatever becomes of them.
theorem steps_goes {g : Step × List Token → List Step × List Token → Except Failure (α × List Token)}
    (proceeds : Proceeds v n) (ended : Ended ts) (enough : 16 * ts.length + 1 ≤ n)
    (next : ∀ s r rest, Ended rest → Headway v 0 rest (g s (r,rest))) :
    Headway v 1 ts (readStep v n ts >>= fun s => readSteps v n s.2 >>= g s) := by
  refine (proceeds.step ts ended enough).bind fun s rest ended counted => ?_
  exact (proceeds.steps rest ended (by omega)).bind fun r rest ended _ => next _ r rest ended

theorem readPath_goes (proceeds : Proceeds v n) (ended : Ended ts) (enough : 16 * ts.length + 2 ≤ n + 1) :
    Headway v 1 ts (readPath v (n + 1) ts) := by
  rw [readPath]
  split
  · rename_i slash
    split
    · refine Headway.past ended (by simp [slash]) fun ended counted => ?_
      exact Headway.slack (steps_goes proceeds ended (by omega) fun _ _ _ ended => Headway.done ended)
    · exact Headway.unnamed rfl (by simp)
  · split
    · rename_i slashes
      split
      · refine Headway.past ended (by simp [slashes]) fun ended counted => ?_
        exact Headway.slack (steps_goes proceeds ended (by omega) fun _ _ _ ended => Headway.done ended)
      · exact Headway.unnamed rfl (by simp)
    · split
      · rename_i starts
        refine (proceeds.primary ts ended starts (by omega)).bind fun e rest ended counted => ?_
        refine (proceeds.predicates rest ended (by omega)).bind fun predicates rest ended fewer => ?_
        refine (proceeds.steps rest ended (by omega)).bind fun steps rest ended _ => ?_
        exact Headway.done ended
      · split
        · rename_i starts
          split
          · exact Headway.past ended (startsStep_shown starts) fun ended _ => Headway.done ended
          · exact steps_goes proceeds ended (by omega) fun _ _ _ ended => Headway.done ended
        · exact Headway.here ended rfl rfl

theorem readSteps_goes (proceeds : Proceeds v n) (ended : Ended ts) (enough : 16 * ts.length + 1 ≤ n + 1) :
    Headway v 0 ts (readSteps v (n + 1) ts) := by
  rw [readSteps]
  split
  · rename_i slash
    refine Headway.slack (Headway.past ended (by simp [slash]) fun ended counted => ?_)
    exact Headway.slack (steps_goes proceeds ended (by omega) fun _ _ _ ended => Headway.done ended)
  · split
    · rename_i slashes
      split
      · refine Headway.slack (Headway.past ended (by simp [slashes]) fun ended counted => ?_)
        exact Headway.slack (steps_goes proceeds ended (by omega) fun _ _ _ ended => Headway.done ended)
      · exact Headway.unnamed rfl (by simp)
    · exact Headway.done ended

theorem readStep_goes (proceeds : Proceeds v n) (ended : Ended ts) (enough : 16 * ts.length + 1 ≤ n + 1) :
    Headway v 1 ts (readStep v (n + 1) ts) := by
  rw [readStep]
  refine readAxisTest_goes ended fun axis test rest ended counted => ?_
  exact (proceeds.predicates rest ended (by omega)).bind fun predicates rest ended _ => Headway.done ended

theorem readPredicates_goes (proceeds : Proceeds v n) (ended : Ended ts) (enough : 16 * ts.length + 1 ≤ n + 1) :
    Headway v 0 ts (readPredicates v (n + 1) ts) := by
  rw [readPredicates]
  split
  · rename_i bracket
    refine Headway.slack (Headway.past ended (by simp [bracket]) fun ended counted => ?_)
    refine Headway.slack ((proceeds.level .disjunction _ ended (by omega)).bind fun e rest ended fewer => ?_)
    refine Headway.slack (Headway.expect ended (by decide) (by rfl) fun ended less => ?_)
    exact (proceeds.predicates _ ended (by omega)).bind fun es rest ended _ => Headway.done ended
  · exact Headway.done ended

-- The call of a function behind its name.
theorem call_goes {name : String} (proceeds : Proceeds v n) (ended : Ended ts) (enough : 16 * ts.length ≤ n) :
    Headway v 1 ts (do
      let rest ← expect .leftParen .leftParen ts
      let (args,rest) ← readArguments v n rest
      pure (← v.call name args,rest)) := by
  refine Headway.expect ended (by decide) (by rfl) fun ended less => ?_
  refine Headway.slack ((proceeds.arguments _ ended (by omega)).bind fun args rest ended _ => ?_)
  dsimp only
  cases called : v.call name args with
  | error f => exact Refused.call called
  | ok e => exact Headway.done ended

theorem readPrimary_goes (proceeds : Proceeds v n) (ended : Ended ts) (starts : startsPrimary ts = true)
    (enough : 16 * ts.length + 1 ≤ n + 1) : Headway v 1 ts (readPrimary v (n + 1) ts) := by
  have some : front ts ≠ .finish := by
    intro finish
    rw [startsPrimary,finish] at starts
    cases starts
  refine Headway.past ended some fun ended counted => ?_
  rw [readPrimary]
  dsimp only
  split
  · exact Headway.done ended
  · exact Headway.done ended
  · split
    · rename_i name named
      unfold Vocabulary.variable
      split
      · exact Headway.slack (Headway.past ended (by simp [named]) fun ended _ => Headway.done ended)
      · exact Refused.unbound name
    · exact Headway.late ended rfl rfl
  · split
    · rename_i closing
      exact Headway.slack (Headway.past ended (by simp [closing]) fun ended _ => Headway.done ended)
    · refine Headway.slack ((proceeds.level .disjunction _ ended (by omega)).bind fun e rest ended fewer => ?_)
      exact Headway.slack (Headway.expect ended (by decide) (by rfl) fun ended _ => Headway.done ended)
  · exact Headway.slack (call_goes proceeds ended (by omega))
  · rename_i string number dollar paren name
    unfold startsPrimary at starts
    split at starts
    · exact absurd ‹_› (string _)
    · exact absurd ‹_› (number _)
    · exact absurd ‹_› dollar
    · exact absurd ‹_› paren
    · exact absurd ‹_› (name _)
    · cases starts

theorem readArguments_goes (proceeds : Proceeds v n) (ended : Ended ts) (enough : 16 * ts.length + 12 ≤ n + 1) :
    Headway v 1 ts (readArguments v (n + 1) ts) := by
  rw [readArguments]
  split
  · rename_i closing
    exact Headway.past ended (by simp [closing]) fun ended _ => Headway.done ended
  · exact proceeds.argumentList ts ended (by omega)

theorem readArgumentList_goes (proceeds : Proceeds v n) (ended : Ended ts) (enough : 16 * ts.length + 11 ≤ n + 1) :
    Headway v 1 ts (readArgumentList v (n + 1) ts) := by
  rw [readArgumentList]
  refine (proceeds.level .disjunction ts ended (by omega)).bind fun e rest ended counted => ?_
  dsimp only
  split
  · rename_i comma
    refine Headway.slack (Headway.past ended (by simp [comma]) fun ended fewer => ?_)
    exact Headway.slack ((proceeds.argumentList _ ended (by omega)).bind fun es rest ended _ => Headway.done ended)
  · exact Headway.slack (Headway.expect ended (by decide) (by rfl) fun ended _ => Headway.done ended)

theorem proceeds_always (v : Vocabulary) (n : Nat) : Proceeds v n := by
  induction n with
  | zero =>
    constructor
    all_goals intros; exfalso
    · rename_i level _ _ enough
      have low : level.rank ≤ 7 := level.rank_path
      omega
    all_goals omega
  | succ n proceeds =>
    exact ⟨fun level _ ended enough => readLevel_goes proceeds level ended enough,
      fun level left _ ended enough => readOperators_goes proceeds level left ended enough,
      fun _ ended enough => readPath_goes proceeds ended enough,
      fun _ ended enough => readSteps_goes proceeds ended enough,
      fun _ ended enough => readStep_goes proceeds ended enough,
      fun _ ended enough => readPredicates_goes proceeds ended enough,
      fun _ ended starts enough => readPrimary_goes proceeds ended starts enough,
      fun _ ended enough => readArguments_goes proceeds ended enough,
      fun _ ended enough => readArgumentList_goes proceeds ended enough⟩

-- The allowance of `parse` is never used up.
theorem parse_refused {f : Failure} (ended : Ended ts) (failed : parse v ts = .error f) : Refused v ts f := by
  have allowed : 16 * ts.length + 10 ≤ depthAllowance ts + Level.disjunction.rank := by
    rw [depthAllowance,Level.rank]
    omega
  have goes := (proceeds_always v (depthAllowance ts)).level .disjunction ts ended allowed
  have ends : Ends (fun _ => True) (Refused v ts) (parse v ts) := by
    refine Ends.bind goes fun r read => ?_
    dsimp only
    split
    · trivial
    · have stops : Headway v 0 r.2 (α := Expr) (failAt r.2 (.unexpected (front r.2))) := Headway.here read.1 rfl rfl
      exact Refused.behind read.2.1 stops
  exact ends.failure failed

end TreeAudit.Query
