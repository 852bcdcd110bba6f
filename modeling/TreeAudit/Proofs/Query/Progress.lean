import TreeAudit.Java.Language
import TreeAudit.Proofs.Query.Allowance

-- Progress through the tokens. Whatever reads a part of an expression goes past a token at least and stands at the
-- end at the latest, each turn of a loop goes past one, and reading nests no deeper than a multiple of the tokens
-- ahead.
namespace TreeAudit.Query

-- The loops of reading.
inductive Loop
  | operators (level : Level)
  | steps
  | predicates
  | arguments

-- One turn of a loop: an operator and the operand behind it, a slash and the step behind it, a predicate in its
-- brackets, or an argument and the comma or, at last, the parenthesis behind it.
inductive Round (v : Vocabulary) : Loop → List Token → List Token → Prop
  | operand : level.operator? (front ts) = some combine → readLevel v n level.next (advance ts) = .ok (right,rest) →
    Round v (.operators level) ts rest
  | child : front ts = .slash → readStep v n (advance ts) = .ok (step,rest) → Round v .steps ts rest
  | descendant : front ts = .doubleSlash → startsStep (advance ts) = true →
    readStep v n (advance ts) = .ok (step,rest) → Round v .steps ts rest
  | predicate : front ts = .leftBracket → readLevel v n .disjunction (advance ts) = .ok (e,middle) →
    expect .rightBracket .rightBracket middle = .ok rest → Round v .predicates ts rest
  | argument : readLevel v n .disjunction ts = .ok (e,rest) → front rest = .comma →
    Round v .arguments ts (advance rest)
  | closing : readLevel v n .disjunction ts = .ok (e,middle) → expect .rightParen .parenOrComma middle = .ok rest →
    Round v .arguments ts rest

inductive Rounds (v : Vocabulary) (loop : Loop) : Nat → List Token → List Token → Prop
  | none : Rounds v loop 0 ts ts
  | more : Round v loop ts middle → Rounds v loop k middle rest → Rounds v loop (k + 1) ts rest

variable {v : Vocabulary} {tokens ts rest middle : List Token} {n m k pos least enough : Nat} {level : Level}

-- A failure that is not owed to the allowance: it is that of a call, or reading was not too deep.
def Uncut (v : Vocabulary) (f : Failure) : Prop :=
  (∃ name args, v.call name args = .error f) ∨ ∀ offset, f ≠ .badSyntax offset .tooDeep

theorem Refused.uncut {f : Failure} (refused : Refused v ts f) : Uncut v f := by
  cases refused with
  | call called => exact .inl ⟨_,_,called⟩
  | unbound name => exact .inr fun _ => by simp
  | misspelt shallow _ =>
    refine .inr fun offset deep => shallow ?_
    cases deep
    rfl

-- Headway, whatever the reason why reading stops.
def Strides (v : Vocabulary) (least : Nat) (ts : List Token) (x : Except Failure (α × List Token)) : Prop :=
  Ends (fun r => Ended r.2 ∧ r.2 <:+ ts ∧ r.2.length + least ≤ ts.length) (Uncut v) x

theorem Headway.strides {x : Except Failure (α × List Token)} (goes : Headway v least ts x) :
    Strides v least ts x := by
  cases x with
  | error f => exact Refused.uncut goes
  | ok r => exact goes

theorem Strides.stopped {problem : SyntaxProblem} (shallow : problem ≠ .tooDeep) :
    Strides v least ts (α := α) (failAt rest problem) := by
  refine .inr fun offset deep => shallow ?_
  cases deep
  rfl

-- A primary is read where none starts, too: at a name in front of a parenthesis, or in vain.
theorem readPrimary_strides (ended : Ended ts) (enough : 16 * ts.length + 1 ≤ n) :
    Strides v 1 ts (readPrimary v n ts) := by
  cases starts : startsPrimary ts with
  | true => exact ((proceeds_always v n).primary ts ended starts enough).strides
  | false =>
    obtain ⟨n,rfl⟩ : ∃ k, n = k + 1 := ⟨n - 1,by omega⟩
    cases shown : front ts with
    | string _ | number _ | dollar | leftParen =>
      rw [startsPrimary,shown] at starts
      cases starts
    | name name =>
      rw [readPrimary,shown]
      refine (Headway.past ended (by simp [shown]) fun ended counted => ?_).strides
      exact Headway.slack (call_goes (proceeds_always v n) ended (by omega))
    | _ =>
      rw [readPrimary,shown]
      exact .stopped (by simp)

-- Tokens that are left from a position on, the end among them.
def Reaches (tokens : List Token) (least : Nat) (rest : List Token) : Prop :=
  ∃ next, least ≤ next ∧ next < tokens.length ∧ rest = tokens.drop next

theorem Reaches.mono {fewer : Nat} (reaches : Reaches tokens least rest) (more : fewer ≤ least) :
    Reaches tokens fewer rest := by
  obtain ⟨next,later,inside,same⟩ := reaches
  exact ⟨next,Nat.le_trans more later,inside,same⟩

theorem Ended.drop (ended : Ended tokens) (inside : pos < tokens.length) : Ended (tokens.drop pos) := by
  induction ended generalizing pos with
  | last k finish =>
    cases Nat.lt_one_iff.mp inside
    exact .last k finish
  | more k shown later ih =>
    cases pos with
    | zero => exact .more k shown later
    | succ pos => exact ih (Nat.lt_of_succ_lt_succ inside)

-- The end is never passed.
theorem advance_drop (tokens : List Token) (inside : pos < tokens.length) :
    advance (tokens.drop pos) = tokens.drop (min (pos + 1) (tokens.length - 1)) := by
  have first := List.drop_eq_getElem_cons inside
  by_cases further : pos + 1 < tokens.length
  · have more := List.drop_eq_getElem_cons further
    have near : min (pos + 1) (tokens.length - 1) = pos + 1 := by omega
    rw [near,first,more]
    rfl
  · have last : tokens.drop (pos + 1) = [] := List.drop_eq_nil_of_le (Nat.le_of_not_lt further)
    have here : min (pos + 1) (tokens.length - 1) = pos := by omega
    rw [here,first,last]
    rfl

theorem Ended.advance_reaches (ended : Ended tokens) (inside : pos < tokens.length)
    (shown : front (tokens.drop pos) ≠ .finish) : Reaches tokens (pos + 1) (Query.advance (tokens.drop pos)) := by
  have counted := (ended.drop inside).past shown
  rw [advance_drop tokens inside,List.length_drop,List.length_drop] at counted
  exact ⟨_,by omega,by omega,advance_drop tokens inside⟩

theorem Strides.reaches {x y : Except Failure (α × List Token)} {r : α × List Token} (inside : pos < tokens.length)
    (strides : Strides v least (tokens.drop pos) y) (lasts : Lasts x y) (read : x = .ok r) :
    Reaches tokens (pos + least) r.2 := by
  obtain ⟨ended,short,counted⟩ := strides.value (lasts r read)
  obtain ⟨k,after,same,_⟩ := ended.first
  have some : 0 < r.2.length := by rw [same]; exact Nat.succ_pos _
  rw [List.length_drop] at counted
  exact ⟨tokens.length - r.2.length,by omega,by omega,
    List.suffix_iff_eq_drop.mp (short.trans (List.drop_suffix pos tokens))⟩

-- What is read from a position on, with any allowance, ends at a later one, which is that of the end at most.
structure Onward (v : Vocabulary) (tokens : List Token) (pos : Nat) : Prop where
  test : ∀ r, readTest (tokens.drop pos) = .ok r → Reaches tokens (pos + 1) r.2
  axisTest : ∀ r, readAxisTest (tokens.drop pos) = .ok r → Reaches tokens (pos + 1) r.2.2
  level : ∀ n level r, readLevel v n level (tokens.drop pos) = .ok r → Reaches tokens (pos + 1) r.2
  path : ∀ n r, readPath v n (tokens.drop pos) = .ok r → Reaches tokens (pos + 1) r.2
  step : ∀ n r, readStep v n (tokens.drop pos) = .ok r → Reaches tokens (pos + 1) r.2
  primary : ∀ n r, readPrimary v n (tokens.drop pos) = .ok r → Reaches tokens (pos + 1) r.2
  arguments : ∀ n r, readArguments v n (tokens.drop pos) = .ok r → Reaches tokens (pos + 1) r.2
  argumentList : ∀ n r, readArgumentList v n (tokens.drop pos) = .ok r → Reaches tokens (pos + 1) r.2

theorem onward_always (v : Vocabulary) (ended : Ended tokens) (inside : pos < tokens.length) :
    Onward v tokens pos := by
  have here := ended.drop inside
  -- An allowance that is enough, next to the one that is given.
  have proceeds := fun n => proceeds_always v (n + (16 * (tokens.drop pos).length + 12))
  have lasting := fun n => lasting_always v (Nat.le_add_right n (16 * (tokens.drop pos).length + 12))
  constructor
  case test => exact fun _ read => (readTest_headway here (v := v)).strides.reaches inside .same read
  case axisTest =>
    intro r read
    have goes : Headway v 1 (tokens.drop pos) (readAxisTest (tokens.drop pos) >>= fun r => .ok r.2) :=
      readAxisTest_goes here fun _ _ _ ended _ => .done ended
    rw [read] at goes
    exact Strides.reaches (v := v) inside goes.strides .same rfl
  case level =>
    exact fun n level _ read => ((proceeds n).level level _ here (by omega)).strides.reaches inside
      ((lasting n).level level _) read
  case path =>
    exact fun n _ read => ((proceeds n).path _ here (by omega)).strides.reaches inside ((lasting n).path _) read
  case step =>
    exact fun n _ read => ((proceeds n).step _ here (by omega)).strides.reaches inside ((lasting n).step _) read
  case primary =>
    exact fun n _ read => (readPrimary_strides here (by omega)).reaches inside ((lasting n).primary _) read
  case arguments =>
    exact fun n _ read => ((proceeds n).arguments _ here (by omega)).strides.reaches inside
      ((lasting n).arguments _) read
  case argumentList =>
    exact fun n _ read => ((proceeds n).argumentList _ here (by omega)).strides.reaches inside
      ((lasting n).argumentList _) read

theorem expect_ok {symbol : Symbol} {what : Expectation} (met : expect symbol what ts = .ok rest) :
    front ts = symbol ∧ rest = advance ts := by
  unfold expect at met
  split at met
  · rename_i shown
    cases met
    exact ⟨shown,rfl⟩
  · cases met

section Rounds
variable {loop : Loop}

theorem Round.reaches (round : Round v loop (tokens.drop pos) rest) (ended : Ended tokens)
    (inside : pos < tokens.length) : Reaches tokens (pos + 1) rest := by
  -- What is read behind a symbol that is not the end is past that symbol.
  have behind : ∀ {α : Type} {read : List Token → Except Failure (α × List Token)} {r : α × List Token},
      front (tokens.drop pos) ≠ .finish → read (advance (tokens.drop pos)) = .ok r →
      (∀ next, next < tokens.length → ∀ r, read (tokens.drop next) = .ok r → Reaches tokens (next + 1) r.2) →
      Reaches tokens (pos + 1) r.2 := by
    intro α read r shown found onward
    obtain ⟨next,later,within,same⟩ := ended.advance_reaches inside shown
    rw [same] at found
    exact (onward next within r found).mono (by omega)
  cases round with
  | operand found read =>
    exact behind (operator_shown found) read fun _ within => (onward_always v ended within).level _ _
  | child slash read =>
    exact behind (by simp [slash]) read fun _ within => (onward_always v ended within).step _
  | descendant slashes _ read =>
    exact behind (by simp [slashes]) read fun _ within => (onward_always v ended within).step _
  | predicate bracket read closed =>
    obtain ⟨next,later,within,rfl⟩ :=
      behind (by simp [bracket]) read fun _ within => (onward_always v ended within).level _ _
    obtain ⟨shown,rfl⟩ := expect_ok closed
    exact (ended.advance_reaches within (by simp [shown])).mono (by omega)
  | argument read comma =>
    obtain ⟨next,later,within,rfl⟩ := (onward_always v ended inside).level _ _ _ read
    exact (ended.advance_reaches within (by simp [comma])).mono (by omega)
  | closing read closed =>
    obtain ⟨next,later,within,rfl⟩ := (onward_always v ended inside).level _ _ _ read
    obtain ⟨shown,rfl⟩ := expect_ok closed
    exact (ended.advance_reaches within (by simp [shown])).mono (by omega)

theorem Rounds.reaches (rounds : Rounds v loop k ts rest) (ended : Ended tokens) (inside : pos < tokens.length)
    (start : ts = tokens.drop pos) : Reaches tokens (pos + k) rest := by
  induction rounds generalizing pos with
  | none => exact ⟨pos,Nat.le_refl _,inside,start⟩
  | more round _ ih =>
    subst start
    obtain ⟨next,later,within,same⟩ := round.reaches ended inside
    exact (ih within same).mono (by omega)

end Rounds

-- The turns of a loop, read off its recursion.
section Loops

theorem readOperators_rounds {e left : Expr} (read : readOperators v n level left ts = .ok (e,rest)) :
    ∃ k, Rounds v (.operators level) k ts rest := by
  induction n generalizing ts left with
  | zero => cases read
  | succ n ih =>
    rw [readOperators] at read
    split at read
    · cases read
      exact ⟨0,.none⟩
    · rename_i combine found
      obtain ⟨⟨right,middle⟩,operand,read⟩ := bind_ok read
      have round : Round v (.operators level) ts middle := .operand found operand
      dsimp only at read
      split at read
      · cases read
        exact ⟨1,.more round .none⟩
      · obtain ⟨k,more⟩ := ih read
        exact ⟨k + 1,.more round more⟩

theorem readSteps_rounds {steps : List Step} (read : readSteps v n ts = .ok (steps,rest)) :
    ∃ k, Rounds v .steps k ts rest := by
  induction n generalizing ts steps with
  | zero => cases read
  | succ n ih =>
    rw [readSteps] at read
    split at read
    · rename_i slash
      obtain ⟨⟨step,middle⟩,one,read⟩ := bind_ok read
      obtain ⟨⟨others,_⟩,further,done⟩ := bind_ok read
      cases done
      obtain ⟨k,more⟩ := ih further
      exact ⟨k + 1,.more (.child slash one) more⟩
    · split at read
      · rename_i slashes
        split at read
        · rename_i starts
          obtain ⟨⟨step,middle⟩,one,read⟩ := bind_ok read
          obtain ⟨⟨others,_⟩,further,done⟩ := bind_ok read
          cases done
          obtain ⟨k,more⟩ := ih further
          exact ⟨k + 1,.more (.descendant slashes starts one) more⟩
        · cases read
      · cases read
        exact ⟨0,.none⟩

theorem readPredicates_rounds {predicates : List Expr} (read : readPredicates v n ts = .ok (predicates,rest)) :
    Rounds v .predicates predicates.length ts rest := by
  induction n generalizing ts predicates with
  | zero => cases read
  | succ n ih =>
    rw [readPredicates] at read
    split at read
    · rename_i bracket
      obtain ⟨⟨e,middle⟩,one,read⟩ := bind_ok read
      obtain ⟨behind,closed,read⟩ := bind_ok read
      obtain ⟨⟨others,_⟩,further,done⟩ := bind_ok read
      cases done
      exact .more (.predicate bracket one closed) (ih further)
    · cases read
      exact .none

theorem readArgumentList_rounds {args : List Expr} (read : readArgumentList v n ts = .ok (args,rest)) :
    Rounds v .arguments args.length ts rest := by
  induction n generalizing ts args with
  | zero => cases read
  | succ n ih =>
    rw [readArgumentList] at read
    obtain ⟨⟨e,middle⟩,one,read⟩ := bind_ok read
    dsimp only at read
    split at read
    · rename_i comma
      obtain ⟨⟨others,_⟩,further,done⟩ := bind_ok read
      cases done
      exact .more (.argument one comma) (ih further)
    · obtain ⟨behind,closed,done⟩ := bind_ok read
      cases done
      exact .more (.closing one closed) .none

end Loops

-- Each turn of a loop goes past a token, and so does a loop for each of its turns.
structure Looping (v : Vocabulary) (tokens : List Token) (pos : Nat) : Prop where
  round : ∀ loop rest, Round v loop (tokens.drop pos) rest → Reaches tokens (pos + 1) rest
  operators : ∀ n level left r, readOperators v n level left (tokens.drop pos) = .ok r →
    ∃ k, Rounds v (.operators level) k (tokens.drop pos) r.2 ∧ Reaches tokens (pos + k) r.2
  steps : ∀ n r, readSteps v n (tokens.drop pos) = .ok r →
    ∃ k, Rounds v .steps k (tokens.drop pos) r.2 ∧ Reaches tokens (pos + k) r.2
  predicates : ∀ n r, readPredicates v n (tokens.drop pos) = .ok r →
    Rounds v .predicates r.1.length (tokens.drop pos) r.2 ∧ Reaches tokens (pos + r.1.length) r.2
  arguments : ∀ n r, readArgumentList v n (tokens.drop pos) = .ok r →
    Rounds v .arguments r.1.length (tokens.drop pos) r.2 ∧ Reaches tokens (pos + r.1.length) r.2

theorem looping_always (v : Vocabulary) (ended : Ended tokens) (inside : pos < tokens.length) :
    Looping v tokens pos := by
  constructor
  case round => exact fun _ _ round => round.reaches ended inside
  case operators =>
    intro n level left r read
    obtain ⟨k,rounds⟩ := readOperators_rounds read
    exact ⟨k,rounds,rounds.reaches ended inside rfl⟩
  case steps =>
    intro n r read
    obtain ⟨k,rounds⟩ := readSteps_rounds read
    exact ⟨k,rounds,rounds.reaches ended inside rfl⟩
  case predicates =>
    intro n r read
    have rounds := readPredicates_rounds read
    exact ⟨rounds,rounds.reaches ended inside rfl⟩
  case arguments =>
    intro n r read
    have rounds := readArgumentList_rounds read
    exact ⟨rounds,rounds.reaches ended inside rfl⟩

-- With enough allowance the result is that of any larger one, and no failure is owed to it.
def Suffices (v : Vocabulary) (enough : Nat) (read : Nat → Except Failure α) : Prop :=
  ∀ n, enough ≤ n → read n = read enough ∧ ∀ f, read n = .error f → Uncut v f

-- With so much allowance every function comes to its result, turns of loops taken for calls.
structure Sufficing (v : Vocabulary) (enough : Nat) (ts : List Token) : Prop where
  level : ∀ level, Suffices v enough fun n => readLevel v n level ts
  operators : ∀ level left, Suffices v enough fun n => readOperators v n level left ts
  path : Suffices v enough fun n => readPath v n ts
  steps : Suffices v enough fun n => readSteps v n ts
  step : Suffices v enough fun n => readStep v n ts
  predicates : Suffices v enough fun n => readPredicates v n ts
  primary : Suffices v enough fun n => readPrimary v n ts
  arguments : Suffices v enough fun n => readArguments v n ts
  argumentList : Suffices v enough fun n => readArgumentList v n ts

theorem Strides.suffices {read : Nat → Except Failure (α × List Token)}
    (strides : Strides v least ts (read enough)) (steady : ∀ n, enough ≤ n → read n = read enough) : Suffices v enough read :=
  fun n larger => ⟨steady n larger,fun _ failed => strides.failure ((steady n larger).symm.trans failed)⟩

theorem sufficing_always (v : Vocabulary) (ended : Ended ts) (allowed : 16 * (ts.length + 1) ≤ enough) :
    Sufficing v enough ts := by
  have proceeds := proceeds_always v enough
  have steady := fun n larger => steady_always v (n := enough) (m := n) larger
  constructor
  case level =>
    exact fun level => (proceeds.level level _ ended (by omega)).strides.suffices
      fun n larger => (steady n larger).level level _ ended (by omega)
  case operators =>
    exact fun level left => (proceeds.operators level left _ ended (by omega)).strides.suffices
      fun n larger => (steady n larger).operators level left _ ended (by omega)
  case path =>
    exact (proceeds.path _ ended (by omega)).strides.suffices
      fun n larger => (steady n larger).path _ ended (by omega)
  case steps =>
    exact (proceeds.steps _ ended (by omega)).strides.suffices
      fun n larger => (steady n larger).steps _ ended (by omega)
  case step =>
    exact (proceeds.step _ ended (by omega)).strides.suffices
      fun n larger => (steady n larger).step _ ended (by omega)
  case predicates =>
    exact (proceeds.predicates _ ended (by omega)).strides.suffices
      fun n larger => (steady n larger).predicates _ ended (by omega)
  case primary =>
    exact (readPrimary_strides ended (by omega)).suffices
      fun n larger => (steady n larger).primary _ ended (by omega)
  case arguments =>
    exact (proceeds.arguments _ ended (by omega)).strides.suffices
      fun n larger => (steady n larger).arguments _ ended (by omega)
  case argumentList =>
    exact (proceeds.argumentList _ ended (by omega)).strides.suffices
      fun n larger => (steady n larger).argumentList _ ended (by omega)

-- Reading from any position goes on, never past the end, and comes to its own end: an expression is what any larger
-- allowance for depth would make of it.
theorem reading_progresses (v : Vocabulary) (ended : Ended tokens) (inside : pos < tokens.length) :
    advance (tokens.drop pos) = tokens.drop (min (pos + 1) (tokens.length - 1)) ∧ Onward v tokens pos ∧
      Looping v tokens pos ∧ Sufficing v (16 * (tokens.length - pos + 1)) (tokens.drop pos) ∧
      ∀ n, 16 * (tokens.length + 1) ≤ n → parse v tokens = (readLevel v n .disjunction tokens >>= fun r =>
        if front r.2 = .finish then pure r.1 else failAt r.2 (.unexpected (front r.2))) := by
  refine ⟨advance_drop tokens inside,onward_always v ended inside,looping_always v ended inside,
    sufficing_always v (ended.drop inside) (List.length_drop ▸ Nat.le_refl _),fun n larger => ?_⟩
  rw [parse_settled v ended larger]
  rfl

theorem reading_progresses_sample :
    let tokens : List Token := [⟨.name "a",0⟩,⟨.leftBracket,1⟩,⟨.name "b",2⟩,⟨.rightBracket,3⟩,⟨.finish,4⟩]
    let v : Vocabulary := ⟨Java.language.reading .standard,[]⟩
    Ended tokens ∧ 1 < tokens.length ∧ advance (tokens.drop 1) = tokens.drop (min (1 + 1) (tokens.length - 1)) ∧
      Onward v tokens 1 ∧ Looping v tokens 1 ∧ Sufficing v (16 * (tokens.length - 1 + 1)) (tokens.drop 1) ∧
      ∀ n, 16 * (tokens.length + 1) ≤ n → parse v tokens = (readLevel v n .disjunction tokens >>= fun r =>
        if front r.2 = .finish then pure r.1 else failAt r.2 (.unexpected (front r.2))) := by
  intro tokens v
  have ended : Ended tokens :=
    .more _ (by decide) (.more _ (by decide) (.more _ (by decide) (.more _ (by decide) (.last _ rfl))))
  exact ⟨ended,by decide,reading_progresses v ended (by decide)⟩

end TreeAudit.Query
