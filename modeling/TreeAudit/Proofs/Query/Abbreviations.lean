import TreeAudit.Proofs.Query.RoundTrip

-- Reading what is written short: a child step without its axis, and such a step behind a double slash.
namespace TreeAudit.Query
variable {v : Vocabulary} {e : Expr} {ss : List Symbol} {ts rest : List Token} {n : Nat} {test : NodeTest}
  {predicates : List Expr} {steps : List Step}

-- What is a whole path is a whole expression of every level, if it does not start with a sign and nothing
-- goes on behind it.
theorem readLevel_path (path : readPath v n ts = .ok (e,rest)) (unsigned : front ts ≠ .minus)
    (closed : Level.disjunction.Closes (front rest)) (level : Level) :
    readLevel v (n + 8 - level.rank) level ts = .ok (e,rest) := by
  induction level using Level.climb with
  | top => exact path
  | step level inner above =>
    have higher := Level.rank_next inner
    have low : level.next.rank ≤ 7 := level.next.rank_path
    rw [show n + 8 - level.rank = n + 8 - level.next.rank + 1 by omega]
    by_cases signed : level = .sign
    · subst signed
      rw [readLevel,if_neg unsigned]
      exact above
    · rw [readLevel_binary signed inner,above]
      obtain ⟨m,more⟩ : ∃ m, n + 8 - level.next.rank = m + 1 := ⟨n + 7 - level.next.rank,by omega⟩
      change readOperators v (n + 8 - level.next.rank) level e rest = _
      rw [more,readOperators,closed.2.2 level (Nat.zero_le _)]

theorem parse_path (path : ∀ n, 16 * ts.length < n + 8 → readPath v n ts = .ok (e,rest))
    (unsigned : front ts ≠ .minus) (last : front rest = .finish) : parse v ts = .ok e := by
  have whole := readLevel_path (path (16 * ts.length + 8) (by omega)) unsigned
    (closing_closes (.inl last)) .disjunction
  rw [parse,depthAllowance,show 16 * (ts.length + 1) = 16 * ts.length + 8 + 8 - Level.disjunction.rank from rfl,
    whole]
  exact if_pos last

theorem const_legible {value : Value} (literal : value.Literal) : Legible v (.const value) := by
  have primary := const_primary (v := v) literal
  have opening := const_opening literal
  exact legible_of opening (value_reads opening.some (primary.value opening.some)) (fun _ => primary) nofun

-- A step without an axis. Neither a second colon nor a parenthesis follows its test.
theorem child_read (legible : ∀ p ∈ predicates, Legible v p)
    (spelt : Spells (test.symbol :: printPredicates predicates) ts rest)
    (stops : front rest ≠ .leftBracket ∧ front rest ≠ .leftParen ∧ front rest ≠ .doubleColon)
    (enough : 16 * (printPredicates predicates).length < n) :
    readStep v (n + 1) ts = .ok (.mk .child test predicates,rest) := by
  obtain ⟨isTest,behind⟩ := spelt
  have follows : front (advance ts) ≠ .leftParen ∧ front (advance ts) ≠ .doubleColon := by
    cases predicates with
    | nil => exact behind ▸ stops.2
    | cons p predicates =>
      rw [behind.1]
      decide
  have tested : readTest ts = .ok (test,advance ts) := by
    cases test with
    | any => simp only [readTest,isTest,NodeTest.symbol]
    | name s =>
      simp only [readTest,isTest,NodeTest.symbol]
      rw [if_neg (fun both => follows.1 (of_decide_eq_true (Bool.and_eq_true_iff.mp both).2))]
  have walked : readAxisTest ts = .ok (.child,test,advance ts) := by
    cases test with
    | any =>
      simp only [readAxisTest,isTest,NodeTest.symbol,tested]
      rfl
    | name s =>
      simp only [readAxisTest,isTest,NodeTest.symbol,second_eq,tested]
      rw [if_neg follows.2]
      rfl
  rw [readStep,walked]
  change (readPredicates v n (advance ts) >>= _) = _
  have kept : PredicatesRead v predicates := predicates_read legible
  rw [kept _ rest behind stops.1 n enough]
  rfl

-- Such a step behind a double slash, as a whole path.
theorem below_read (legible : ∀ p ∈ predicates, Legible v p)
    (spelt : Spells (.doubleSlash :: test.symbol :: printPredicates predicates) ts rest)
    (closing : front rest = .finish ∨ front rest = .rightParen ∨ front rest = .rightBracket ∨
      front rest = .comma) (enough : 16 * (printPredicates predicates).length < n) :
    readPath v (n + 2) ts = .ok (.path .document (descendantSteps (.mk .child test predicates)),rest) := by
  have closed : Level.path.Closes (front rest) := closing_closes closing
  have stops : front rest ≠ .leftBracket ∧ front rest ≠ .leftParen ∧ front rest ≠ .doubleColon := by
    rcases closing with same | same | same | same <;> rw [same] <;> decide
  obtain ⟨isDouble,behind⟩ := spelt
  have starts : startsStep (advance ts) = true := by
    rw [startsStep,behind.1]
    cases test <;> rfl
  rw [readPath,isDouble,if_neg (by decide),if_pos rfl,if_pos starts,child_read legible behind stops enough]
  change (readSteps v (n + 1) rest >>= _) = _
  rw [no_steps rest rest rfl closed (n + 1) (Nat.succ_pos n)]
  change Except.ok (Expr.path .document (_ ++ []),rest) = _
  rw [List.append_nil]

-- A path in parentheses with predicates behind them, as a whole path.
theorem grouped_read {close : List Token} (opening : front ts = .leftParen)
    (path : readPath v n (advance ts) = .ok (e,close))
    (starts : front (advance ts) ≠ .minus ∧ front (advance ts) ≠ .rightParen)
    (isClose : front close = .rightParen) (present : predicates ≠ [])
    (legible : ∀ p ∈ predicates, Legible v p) (spelt : Spells (printPredicates predicates) (advance close) rest)
    (closed : Level.path.Closes (front rest)) (enough : 16 * (printPredicates predicates).length < n + 9) :
    readPath v (n + 10) ts = .ok (.filter e predicates,rest) := by
  have primary : readPrimary v (n + 9) ts = .ok (e,advance close) := by
    have inside := readLevel_path path starts.1 (closing_closes (isClose ▸ .inr (.inl rfl))) .disjunction
    rw [readPrimary]
    simp only [opening]
    rw [if_neg starts.2]
    change (readLevel v (n + 8) .disjunction (advance ts) >>= _) = _
    rw [show n + 8 = n + 8 - Level.disjunction.rank from rfl,inside]
    change (expect .rightParen .rightParen close >>= _) = _
    rw [expect,if_pos isClose]
    rfl
  have kept : PredicatesRead v predicates := predicates_read legible
  rw [readPath,opening,if_neg (by decide),if_neg (by decide),if_pos (by rw [startsPrimary,opening]),primary]
  change (readPredicates v (n + 9) (advance close) >>= _) = _
  rw [kept _ rest spelt (not_bracket closed) (n + 9) enough]
  change (readSteps v (n + 9) rest >>= _) = _
  rw [no_steps rest rest rfl closed (n + 9) (Nat.succ_pos _)]
  change Except.ok (filtered e predicates,rest) = _
  rw [filtered,if_neg (by rwa [List.isEmpty_iff])]

theorem parse_below (legible : ∀ p ∈ predicates, Legible v p)
    (written : ts.map Token.symbol = (.doubleSlash :: test.symbol :: printPredicates predicates) ++ [.finish]) :
    parse v ts = .ok (.path .document (descendantSteps (.mk .child test predicates))) := by
  obtain ⟨k,last,spelt⟩ := spells_of_map written
  have counted : ts.length = (printPredicates predicates).length + 3 := by
    rw [← List.length_map (f := Token.symbol),written]
    simp
  have starts : front ts ≠ .minus := spelt.1 ▸ by decide
  have ends : front [k] = .finish := last
  refine parse_path (fun n enough => ?_) starts ends
  obtain ⟨n,rfl⟩ : ∃ m, n = m + 2 := ⟨n - 2,by omega⟩
  exact below_read legible spelt (.inl last) (by omega)

theorem parse_grouped (present : predicates ≠ []) (legible : ∀ p ∈ predicates, Legible v p)
    (written : ts.map Token.symbol = [.leftParen,.doubleSlash,test.symbol,.rightParen] ++
      printPredicates predicates ++ [.finish]) :
    parse v ts = .ok (.filter (.path .document [.mk .descendant test []]) predicates) := by
  obtain ⟨k,last,spelt⟩ := spells_of_map written
  have counted : ts.length = (printPredicates predicates).length + 5 := by
    rw [← List.length_map (f := Token.symbol),written]
    simp
  obtain ⟨opening,isDouble,isTest,isClose,behind⟩ := spelt
  have starts : front ts ≠ .minus := opening ▸ by decide
  have ends : front [k] = .finish := last
  refine parse_path (fun n enough => ?_) starts ends
  obtain ⟨n,rfl⟩ : ∃ m, n = m + 13 := ⟨n - 13,by omega⟩
  have path : readPath v (n + 3) (advance ts) =
      .ok (.path .document [.mk .descendant test []],advance (advance (advance ts))) :=
    @below_read v _ _ (n + 1) test [] nofun ⟨isDouble,isTest,rfl⟩ (.inr (.inl isClose)) (Nat.succ_pos n)
  exact grouped_read opening path (by rw [isDouble]; decide) isClose present legible behind
    (closing_closes (.inl last)) (by omega)

end TreeAudit.Query
