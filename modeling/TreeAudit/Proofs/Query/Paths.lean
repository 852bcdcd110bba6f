import TreeAudit.Proofs.Query.Operators

-- Reading paths and what they are made of: primaries, predicates, steps and arguments, each from its
-- printed form and with sixteen of the allowance for each symbol.
namespace TreeAudit.Query
variable {v : Vocabulary} {e l r : Expr} {symbol : Symbol} {ss left right : List Symbol}
  {ts rest : List Token} {level : Level} {n j : Nat}

def PrimaryReads (v : Vocabulary) (e : Expr) (ss : List Symbol) : Prop :=
  ∀ ts rest, Spells ss ts rest →
    startsPrimary ts = true ∧ ∀ n, 16 * ss.length < n + 9 → readPrimary v n ts = .ok (e,rest)

-- What can be the start of a path: a primary with its predicates, if any.
def ValueReads (v : Vocabulary) (e : Expr) (ss : List Symbol) : Prop :=
  ∀ ts rest, Spells ss ts rest → front rest ≠ .leftBracket →
    startsPrimary ts = true ∧ ∃ base predicates middle, filtered base predicates = e ∧
      ∀ n, 16 * ss.length < n + 9 →
        readPrimary v n ts = .ok (base,middle) ∧ readPredicates v n middle = .ok (predicates,rest)

def PredicatesRead (v : Vocabulary) (predicates : List Expr) : Prop :=
  ∀ ts rest, Spells (printPredicates predicates) ts rest → front rest ≠ .leftBracket →
    ∀ n, 16 * (printPredicates predicates).length < n → readPredicates v n ts = .ok (predicates,rest)

def StepsRead (v : Vocabulary) (steps : List Step) : Prop :=
  ∀ ts rest, Spells (printSteps steps) ts rest → Level.path.Closes (front rest) →
    ∀ n, 16 * (printSteps steps).length < n → readSteps v n ts = .ok (steps,rest)

theorem not_bracket (closed : level.Closes symbol) : symbol ≠ .leftBracket := by
  rintro rfl
  cases closed.2.1

theorem parenthesized_reads (reads : LevelReads v .disjunction e ss)
    (opening : ∀ ts rest, Spells ss ts rest → front ts ≠ .rightParen) :
    PrimaryReads v e (.leftParen :: (ss ++ [.rightParen])) := by
  intro ts rest spelt
  obtain ⟨sign,inside⟩ := spelt
  obtain ⟨middle,within_,last⟩ := spells_append.mp inside
  obtain ⟨close,rfl⟩ := last
  refine ⟨by rw [startsPrimary,sign],fun n enough => ?_⟩
  simp only [List.length_cons,List.length_append,List.length_nil] at enough
  obtain ⟨n,rfl⟩ : ∃ m, n = m + 1 := ⟨n - 1,by omega⟩
  have complete := reads.complete within_ (closing_closes (close ▸ .inr (.inl rfl))) (n := n) (by omega)
  rw [readPrimary]
  simp only [sign]
  rw [if_neg (opening _ _ within_),complete]
  change (expect .rightParen .rightParen middle >>= _) = _
  rw [expect,if_pos close]
  rfl

theorem PrimaryReads.value (some : 0 < ss.length) (reads : PrimaryReads v e ss) : ValueReads v e ss := by
  intro ts rest spelt stops
  obtain ⟨starts,primary⟩ := reads ts rest spelt
  refine ⟨starts,e,[],rest,rfl,fun n enough => ⟨primary n enough,?_⟩⟩
  obtain ⟨n,rfl⟩ : ∃ m, n = m + 1 := ⟨n - 1,by omega⟩
  rw [readPredicates,if_neg stops]

theorem filter_value {predicates : List Expr} (some : 0 < ss.length) (present : predicates ≠ [])
    (reads : PrimaryReads v e ss) (all : PredicatesRead v predicates) :
    ValueReads v (.filter e predicates) (ss ++ printPredicates predicates) := by
  intro ts rest spelt stops
  obtain ⟨middle,first,later⟩ := spells_append.mp spelt
  obtain ⟨starts,primary⟩ := reads ts middle first
  refine ⟨starts,e,predicates,middle,?_,fun n enough => ?_⟩
  · rw [filtered,if_neg (by rwa [List.isEmpty_iff])]
  · rw [List.length_append] at enough
    exact ⟨primary n (by omega),all middle rest later stops n (by omega)⟩

-- Before further steps, as before what follows the last one, a step is complete.
theorem steps_stop {steps : List Step} (spelt : Spells (printSteps steps) ts rest)
    (closed : Level.path.Closes (front rest)) : front ts ≠ .leftBracket ∧ front ts ≠ .leftParen := by
  cases steps with
  | nil =>
    cases spelt
    exact ⟨not_bracket closed,closed.1⟩
  | cons step steps =>
    rw [spelt.1]
    decide

theorem readPath_value {steps : List Step} (some : 0 < ss.length) (value : ValueReads v e ss)
    (later : StepsRead v steps) (spelt : Spells (ss ++ printSteps steps) ts rest)
    (closed : Level.path.Closes (front rest)) (enough : 16 * (ss ++ printSteps steps).length < n + 8) :
    readPath v n ts = .ok (continued e steps,rest) := by
  obtain ⟨middle,first,behind⟩ := spells_append.mp spelt
  obtain ⟨starts,base,predicates,bracket,same,reads⟩ := value ts middle first (steps_stop behind closed).1
  rw [List.length_append] at enough
  obtain ⟨n,rfl⟩ : ∃ m, n = m + 1 := ⟨n - 1,by omega⟩
  obtain ⟨primary,kept⟩ := reads n (by omega)
  have unslashed : front ts ≠ .slash ∧ front ts ≠ .doubleSlash := by
    unfold startsPrimary at starts
    constructor
    all_goals
      intro sign
      rw [sign] at starts
      cases starts
  rw [readPath,if_neg unslashed.1,if_neg unslashed.2,if_pos starts,primary]
  change (readPredicates v n bracket >>= _) = _
  rw [kept]
  change (readSteps v n middle >>= _) = _
  rw [later middle rest behind closed n (by omega),← same]
  rfl

theorem path_reads (reads : ∀ ts rest, Spells ss ts rest → Level.path.Closes (front rest) →
    ∀ n, 16 * ss.length < n + 8 → readPath v n ts = .ok (e,rest)) (some : 0 < ss.length) :
    LevelReads v .path e ss := by
  intro ts rest spelt closed j result goes n enough
  rw [Level.rank] at enough
  obtain ⟨n,rfl⟩ : ∃ m, n = m + 1 := ⟨n - 1,by omega⟩
  rw [readLevel,reads ts rest spelt closed n (by omega)]
  exact goes (j + 1) (Nat.lt_succ_self j)

theorem no_steps : StepsRead v [] := by
  intro ts rest spelt closed n enough
  obtain ⟨n,rfl⟩ : ∃ m, n = m + 1 := ⟨n - 1,by omega⟩
  cases spelt
  have stops : ∀ symbol : Symbol, continuesPath symbol = true → front ts ≠ symbol := by
    rintro symbol continues rfl
    exact Bool.false_ne_true (closed.2.1.symm.trans continues)
  rw [readSteps,if_neg (stops _ rfl),if_neg (stops _ rfl)]

theorem value_reads (some : 0 < ss.length) (value : ValueReads v e ss) : LevelReads v .path e ss := by
  refine path_reads (fun ts rest spelt closed n enough => ?_) some
  have bare : ss ++ printSteps [] = ss := List.append_nil ss
  exact readPath_value some value no_steps (bare.symm ▸ spelt) closed (bare.symm ▸ enough)

-- Printed forms never start with a closing parenthesis, and not with a sign either where a sign would have
-- to be enclosed.
def Opens (needed : Nat) (ss : List Symbol) : Prop :=
  ∃ first behind, ss = first :: behind ∧ first ≠ .rightParen ∧ (5 < needed → first ≠ .minus)

theorem Opens.some {needed : Nat} (opens : Opens needed ss) : 0 < ss.length := by
  obtain ⟨first,behind,rfl,_⟩ := opens
  exact Nat.succ_pos _

theorem Opens.mono {needed other : Nat} (opens : Opens needed ss) (weaker : other ≤ needed) : Opens other ss := by
  obtain ⟨first,behind,shown,closed,sign⟩ := opens
  exact ⟨first,behind,shown,closed,fun high => sign (by omega)⟩

theorem Opens.front {needed : Nat} (opens : Opens needed ss) (spelt : Spells ss ts rest) :
    front ts ≠ .rightParen ∧ (5 < needed → front ts ≠ .minus) := by
  obtain ⟨first,behind,rfl,apart⟩ := opens
  exact spelt.1 ▸ apart

-- What is known of an expression once it has been read back from each place in which it can stand.
structure Legible (v : Vocabulary) (e : Expr) : Prop where
  opening : Opens e.rank e.print
  level : ∀ level : Level, LevelReads v level e (e.enclosed level.rank e.print)
  primary : PrimaryReads v e (e.enclosed 9 e.print)
  value : ValueReads v e (e.enclosed 8 e.print)

namespace Legible

theorem whole (legible : Legible v e) : LevelReads v .disjunction e e.print := legible.level .disjunction

theorem enclosed_opening (legible : Legible v e) (needed : Nat) (behind : List Symbol) :
    Opens needed (e.enclosed needed e.print ++ behind) := by
  unfold Expr.enclosed
  split
  · exact ⟨.leftParen,_,rfl,by decide,fun _ => by decide⟩
  · rename_i strong
    obtain ⟨first,ss,shown,closed,sign⟩ := legible.opening
    rw [shown]
    exact ⟨first,_,rfl,closed,fun high => sign (by omega)⟩

theorem enclosed_some (legible : Legible v e) (needed : Nat) : 0 < (e.enclosed needed e.print).length := by
  have opens := legible.enclosed_opening needed []
  rw [List.append_nil] at opens
  exact opens.some

end Legible

theorem predicates_read {predicates : List Expr} (legible : ∀ p ∈ predicates, Legible v p) :
    PredicatesRead v predicates := by
  induction predicates with
  | nil =>
    intro ts rest spelt stops n enough
    obtain ⟨n,rfl⟩ : ∃ m, n = m + 1 := ⟨n - 1,by omega⟩
    cases spelt
    rw [readPredicates,if_neg stops]
  | cons p predicates ih =>
    obtain ⟨here,later⟩ := List.forall_mem_cons.mp legible
    intro ts rest spelt stops n enough
    rw [printPredicates] at spelt enough
    obtain ⟨sign,inside⟩ := spelt
    obtain ⟨middle,first,close,behind⟩ := spells_append.mp inside
    rw [List.length_cons,List.length_append,List.length_cons] at enough
    obtain ⟨n,rfl⟩ : ∃ m, n = m + 1 := ⟨n - 1,by omega⟩
    have complete := here.whole.complete first
      (closing_closes (close ▸ .inr (.inr (.inl rfl)))) (n := n) (by omega)
    rw [readPredicates,if_pos sign,complete]
    change (expect .rightBracket .rightBracket middle >>= _) = _
    rw [expect,if_pos close]
    change (readPredicates v n (advance middle) >>= _) = _
    rw [ih later _ rest behind stops n (by omega)]
    rfl

theorem step_read {step : Step} (legible : ∀ p ∈ step.predicates, Legible v p)
    (spelt : Spells step.print ts rest) (stops : front rest ≠ .leftBracket ∧ front rest ≠ .leftParen)
    (enough : 16 * step.print.length < n + 16) : readStep v n ts = .ok (step,rest) := by
  obtain ⟨axis,test,predicates⟩ := step
  rw [Step.print] at spelt enough
  obtain ⟨isAxis,isColons,isTest,behind⟩ := spelt
  simp only [List.length_cons] at enough
  obtain ⟨n,rfl⟩ : ∃ m, n = m + 1 := ⟨n - 1,by omega⟩
  have unopened : front (advance (advance (advance ts))) ≠ .leftParen := by
    cases predicates with
    | nil => exact behind ▸ stops.2
    | cons p predicates =>
      rw [behind.1]
      decide
  have tested : readTest (advance (advance ts)) = .ok (test,advance (advance (advance ts))) := by
    cases test with
    | any => simp only [readTest,isTest,NodeTest.symbol]
    | name s =>
      simp only [readTest,isTest,NodeTest.symbol]
      rw [if_neg (fun both => unopened (of_decide_eq_true (Bool.and_eq_true_iff.mp both).2))]
  have walked : readAxisTest ts = .ok (axis,test,advance (advance (advance ts))) := by
    simp only [readAxisTest,isAxis,second_eq,isColons,Axis.ofName?_name,tested]
    rfl
  rw [readStep,walked]
  change (readPredicates v n (advance (advance (advance ts))) >>= _) = _
  have kept : PredicatesRead v predicates := predicates_read legible
  rw [kept _ rest behind stops.1 n (by omega)]
  rfl

theorem steps_read {steps : List Step} (legible : ∀ step ∈ steps, ∀ p ∈ step.predicates, Legible v p) :
    StepsRead v steps := by
  induction steps with
  | nil => exact no_steps
  | cons step steps ih =>
    obtain ⟨here,later⟩ := List.forall_mem_cons.mp legible
    intro ts rest spelt closed n enough
    rw [printSteps] at spelt enough
    obtain ⟨sign,inside⟩ := spelt
    obtain ⟨middle,first,behind⟩ := spells_append.mp inside
    rw [List.length_cons,List.length_append] at enough
    obtain ⟨n,rfl⟩ : ∃ m, n = m + 1 := ⟨n - 1,by omega⟩
    rw [readSteps,if_pos sign,step_read here first (steps_stop behind closed) (by omega)]
    change (readSteps v n middle >>= _) = _
    rw [ih later middle rest behind closed n (by omega)]
    rfl

theorem argumentList_read {args : List Expr} (legible : ∀ a ∈ e :: args, Legible v a)
    (spelt : Spells (e.print ++ (printFurther args ++ [.rightParen])) ts rest)
    (enough : 16 * (e.print ++ (printFurther args ++ [Symbol.rightParen])).length < n + 8) :
    readArgumentList v n ts = .ok (e :: args,rest) := by
  induction args generalizing e ts n with
  | nil =>
    obtain ⟨middle,first,close,rfl⟩ := spells_append.mp spelt
    rw [List.length_append,printFurther,List.nil_append,List.length_singleton] at enough
    obtain ⟨n,rfl⟩ : ∃ m, n = m + 1 := ⟨n - 1,by omega⟩
    have complete := (legible e List.mem_cons_self).whole.complete first
      (closing_closes (close ▸ .inr (.inl rfl))) (n := n) (by omega)
    rw [readArgumentList,complete]
    change (if front middle = .comma then _ else expect .rightParen .parenOrComma middle >>= _) = _
    rw [if_neg (by rw [close]; decide),expect,if_pos close]
    rfl
  | cons a args ih =>
    rw [printFurther,List.cons_append,List.append_assoc] at spelt enough
    obtain ⟨middle,first,comma,behind⟩ := spells_append.mp spelt
    rw [List.length_append,List.length_cons] at enough
    obtain ⟨n,rfl⟩ : ∃ m, n = m + 1 := ⟨n - 1,by omega⟩
    obtain ⟨here,later⟩ := List.forall_mem_cons.mp legible
    have complete := here.whole.complete first
      (closing_closes (comma ▸ .inr (.inr (.inr rfl)))) (n := n) (by omega)
    rw [readArgumentList,complete]
    change (if front middle = .comma then readArgumentList v n (advance middle) >>= _ else _) = _
    rw [if_pos comma,ih later behind (by omega)]
    rfl

theorem arguments_read {args : List Expr} (legible : ∀ a ∈ args, Legible v a)
    (spelt : Spells (printArguments args ++ [.rightParen]) ts rest)
    (enough : 16 * (printArguments args ++ [Symbol.rightParen]).length < n) :
    readArguments v n ts = .ok (args,rest) := by
  obtain ⟨n,rfl⟩ : ∃ m, n = m + 1 := ⟨n - 1,by omega⟩
  rw [readArguments]
  cases args with
  | nil =>
    obtain ⟨close,rfl⟩ := spelt
    rw [if_pos close]
  | cons e args =>
    have opens : front ts ≠ .rightParen := by
      have apart := (legible e List.mem_cons_self).opening
      rw [printArguments,List.append_assoc] at spelt
      obtain ⟨middle,first,_⟩ := spells_append.mp spelt
      exact (apart.front first).1
    rw [printArguments,List.append_assoc] at spelt enough
    rw [if_neg opens]
    exact argumentList_read legible spelt (by omega)

theorem call_primary {f : QueryFunction} {args : List Expr} (legible : ∀ a ∈ args, Legible v a)
    (plain : Axis.ofName? f.name = none ∧ f.name ≠ "node") (called : v.call f.name args = .ok (.call f args)) :
    PrimaryReads v (.call f args) (Expr.call f args).print := by
  intro ts rest spelt
  rw [Expr.print] at spelt ⊢
  obtain ⟨isName,opening,inside⟩ := spelt
  constructor
  · simp only [startsPrimary,isName,second_eq,opening,plain.1,plain.2,ne_eq,not_false_eq_true,
      decide_true,Option.isNone_none,Bool.and_self]
  · intro n enough
    rw [List.length_cons,List.length_cons] at enough
    obtain ⟨n,rfl⟩ : ∃ m, n = m + 1 := ⟨n - 1,by omega⟩
    rw [readPrimary]
    simp only [isName]
    rw [expect,if_pos opening]
    change (readArguments v n (advance (advance ts)) >>= _) = _
    rw [arguments_read legible inside (by omega)]
    change (v.call f.name args >>= _) = _
    rw [called]
    rfl

theorem const_opening {value : Value} (literal : value.Literal) : Opens 9 value.print := by
  rcases literal with rfl | ⟨s,rfl⟩ | ⟨x,rfl⟩
  · exact ⟨_,_,rfl,by decide,fun _ => by decide⟩
  · exact ⟨_,_,rfl,nofun,fun _ => nofun⟩
  · exact ⟨_,_,rfl,nofun,fun _ => nofun⟩

theorem const_primary {value : Value} (literal : value.Literal) :
    PrimaryReads v (.const value) (Expr.const value).print := by
  intro ts rest spelt
  rw [Expr.print] at spelt ⊢
  suffices both : startsPrimary ts = true ∧ ∀ n, readPrimary v (n + 1) ts = .ok (.const value,rest) by
    refine ⟨both.1,fun n enough => ?_⟩
    have some : 0 < value.print.length := (const_opening literal).some
    obtain ⟨n,rfl⟩ : ∃ m, n = m + 1 := ⟨n - 1,by omega⟩
    exact both.2 n
  rcases literal with rfl | ⟨s,rfl⟩ | ⟨x,rfl⟩
  · obtain ⟨opening,close,rfl⟩ := spelt
    exact ⟨by rw [startsPrimary,opening],fun n => by rw [readPrimary]; simp only [opening]; rw [if_pos close]⟩
  · obtain ⟨sign,rfl⟩ := spelt
    exact ⟨by rw [startsPrimary,sign],fun n => by rw [readPrimary]; simp only [sign]⟩
  · obtain ⟨sign,rfl⟩ := spelt
    exact ⟨by rw [startsPrimary,sign],fun n => by rw [readPrimary]; simp only [sign]⟩

theorem focus_reads : LevelReads v .path .focus [.dot] := by
  refine path_reads (fun ts rest spelt closed n enough => ?_) (Nat.succ_pos _)
  obtain ⟨dot,rfl⟩ := spelt
  rw [List.length_singleton] at enough
  obtain ⟨n,rfl⟩ : ∃ m, n = m + 1 := ⟨n - 1,by omega⟩
  have ends : continuesPath (second ts) = false := by
    rw [second_eq]
    exact closed.2.1
  simp [readPath,startsPrimary,startsStep,dot,ends]

theorem step_front {step : Step} {behind : List Symbol} (spelt : Spells (step.print ++ behind) ts rest) :
    (∃ name, front ts = .name name) ∧ second ts = .doubleColon := by
  obtain ⟨axis,test,predicates⟩ := step
  rw [Step.print] at spelt
  exact ⟨⟨axis.name,spelt.1⟩,(second_eq ts).trans spelt.2.1⟩

theorem document_reads {step : Step} {steps : List Step}
    (legible : ∀ s ∈ step :: steps, ∀ p ∈ s.predicates, Legible v p) :
    LevelReads v .path (.path .document (step :: steps)) (printSteps (step :: steps)) := by
  refine path_reads (fun ts rest spelt closed n enough => ?_) (Nat.succ_pos _)
  obtain ⟨here,later⟩ := List.forall_mem_cons.mp legible
  rw [printSteps] at spelt enough
  obtain ⟨slash,inside⟩ := spelt
  obtain ⟨⟨name,isName⟩,_⟩ := step_front inside
  obtain ⟨middle,first,behind⟩ := spells_append.mp inside
  rw [List.length_cons,List.length_append] at enough
  obtain ⟨n,rfl⟩ : ∃ m, n = m + 1 := ⟨n - 1,by omega⟩
  have starts : startsStep (advance ts) = true := by rw [startsStep,isName]
  rw [readPath,if_pos slash,if_pos starts,step_read here first (steps_stop behind closed)
    (by omega)]
  change (readSteps v n middle >>= _) = _
  rw [steps_read later middle rest behind closed n (by omega)]
  rfl

theorem relative_reads {step : Step} {steps : List Step}
    (legible : ∀ s ∈ step :: steps, ∀ p ∈ s.predicates, Legible v p) :
    LevelReads v .path (.path .focus (step :: steps)) (step.print ++ printSteps steps) := by
  obtain ⟨here,later⟩ := List.forall_mem_cons.mp legible
  have long : 3 ≤ step.print.length := by
    obtain ⟨axis,test,predicates⟩ := step
    rw [Step.print]
    exact Nat.le_add_left 3 _
  refine path_reads (fun ts rest spelt closed n enough => ?_) (by rw [List.length_append]; omega)
  obtain ⟨⟨name,isName⟩,colons⟩ := step_front spelt
  obtain ⟨middle,first,behind⟩ := spells_append.mp spelt
  rw [List.length_append] at enough
  obtain ⟨n,rfl⟩ : ∃ m, n = m + 1 := ⟨n - 1,by omega⟩
  have starts : startsPrimary ts = false ∧ startsStep ts = true := by
    simp [startsPrimary,startsStep,isName,colons]
  rw [readPath,if_neg (by simp [isName]),if_neg (by simp [isName]),if_neg (by simp [starts.1]),
    if_pos starts.2,if_neg (by simp [isName]),step_read here first (steps_stop behind closed)
    (by omega)]
  change (readSteps v n middle >>= _) = _
  rw [steps_read later middle rest behind closed n (by omega)]
  rfl

theorem continued_reads {steps : List Step} (start : Legible v e) (present : steps ≠ [])
    (legible : ∀ s ∈ steps, ∀ p ∈ s.predicates, Legible v p) :
    LevelReads v .path (.path (.value e) steps) (e.enclosed 8 e.print ++ printSteps steps) := by
  refine path_reads (fun ts rest spelt closed n enough => ?_) (start.enclosed_opening 8 _).some
  rw [readPath_value (start.enclosed_some 8) start.value (steps_read legible) spelt closed enough,continued,
    if_neg (by rwa [List.isEmpty_iff])]

end TreeAudit.Query
