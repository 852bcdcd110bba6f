import TreeAudit.Proofs.Query.Spelling

-- Reading operators. Sixteen of the allowance for each symbol are enough, and an operand that may have
-- operators of its level behind it is told by what reading resumes with.
namespace TreeAudit.Query
variable {v : Vocabulary} {e l r : Expr} {symbol : Symbol} {ss left right : List Symbol}
  {ts rest : List Token} {level : Level} {n j : Nat}

-- What becomes of an expression that was read as the first operand of a level.
def resume (v : Vocabulary) (n : Nat) (level : Level) (e : Expr) (rest : List Token) :
    Except Failure (Expr × List Token) :=
  if level = .sign ∨ level = .path then .ok (e,rest) else readOperators v n level e rest

theorem resume_closed (closed : level.Closes (front rest)) (more : 0 < n) :
    resume v n level e rest = .ok (e,rest) := by
  unfold resume
  split
  · rfl
  · obtain ⟨n,rfl⟩ := Nat.exists_eq_succ_of_ne_zero (Nat.ne_of_gt more)
    rw [readOperators,closed.2.2 level (Nat.le_refl _)]

-- The symbols `ss` are read as `e`, and then reading resumes with what follows.
def LevelReads (v : Vocabulary) (level : Level) (e : Expr) (ss : List Symbol) : Prop :=
  ∀ ts rest, Spells ss ts rest → level.after.Closes (front rest) →
    ∀ j result, (∀ m, j < m → resume v m level e rest = result) →
      ∀ n, 16 * ss.length + j < n + level.rank → readLevel v n level ts = result

theorem LevelReads.complete (reads : LevelReads v level e ss) (spelt : Spells ss ts rest)
    (closed : level.Closes (front rest)) (enough : 16 * ss.length < n + level.rank) :
    readLevel v n level ts = .ok (e,rest) :=
  reads ts rest spelt (closed.mono level.rank_after) 0 _ (fun _ more => resume_closed closed more) n enough

theorem readLevel_binary (unsigned : level ≠ .sign) (inner : level ≠ .path) :
    readLevel v (n + 1) level ts =
      readLevel v n level.next ts >>= fun read => readOperators v n level read.1 read.2 := by
  cases level with
  | sign => exact absurd rfl unsigned
  | path => exact absurd rfl inner
  | _ => rfl

-- What is complete at one level is a first operand of the level below it.
theorem descend (inner : level ≠ .path) (some : 0 < ss.length)
    (unsigned : ∀ ts rest, Spells ss ts rest → level = .sign → front ts ≠ .minus)
    (reads : LevelReads v level.next e ss) : LevelReads v level e ss := by
  intro ts rest spelt closed j result goes n enough
  have higher := Level.rank_next inner
  have low : level.rank ≤ 7 := level.rank_path
  obtain ⟨n,rfl⟩ : ∃ m, n = m + 1 := ⟨n - 1,by omega⟩
  have next : level.next.Closes (front rest) := by
    cases level with
    | comparison => exact closed.mono (by decide)
    | _ => exact closed
  have first := reads.complete spelt next (n := n) (by omega)
  have goes := goes n (by omega)
  by_cases signed : level = .sign
  · subst signed
    rw [readLevel,if_neg (unsigned ts rest spelt rfl)]
    exact first.trans goes
  · rw [readLevel_binary signed inner,first]
    rw [resume,if_neg (fun either => either.elim signed inner)] at goes
    exact goes

-- Operators that group to the left: the left operand resumes with the operator.
theorem infix_reads {combine : Expr → Expr → Expr} (found : level.operator? symbol = some combine)
    (several : level ≠ .comparison) (first : LevelReads v level l left)
    (second : LevelReads v level.next r right) :
    LevelReads v level (combine l r) (left ++ symbol :: right) := by
  intro ts rest spelt closed j result goes n enough
  obtain ⟨middle,before,sign,behind⟩ := spells_append.mp spelt
  have binary : ¬ (level = .sign ∨ level = .path) := by
    rintro (rfl | rfl)
    · cases found
    · cases found
  have next : level.after = level.next := by
    cases level with
    | comparison => exact absurd rfl several
    | _ => rfl
  rw [next] at closed
  have stops : level.after.Closes (front middle) := by
    rw [next,sign]
    exact operator_closes found
  rw [List.length_append,List.length_cons] at enough
  refine first ts middle before stops (16 * right.length + j + 1) result (fun m more => ?_) n (by omega)
  obtain ⟨m,rfl⟩ : ∃ k, m = k + 1 := ⟨m - 1,by omega⟩
  have complete := second.complete behind closed (n := m) (by omega)
  rw [resume,if_neg binary,readOperators,sign,found]
  change (readLevel v m level.next (advance middle) >>= _) = _
  rw [complete]
  change (if level = .comparison then _ else readOperators v m level (combine l r) rest) = _
  rw [if_neg several,← goes m (by omega),resume,if_neg binary]

-- A comparison takes two complete operands and no further one.
theorem comparison_reads (op : Comparison) (first : LevelReads v .sum l left)
    (second : LevelReads v .sum r right) :
    LevelReads v .comparison (.compare op l r) (left ++ op.symbol :: right) := by
  intro ts rest spelt closed j result goes n enough
  obtain ⟨middle,before,sign,behind⟩ := spells_append.mp spelt
  have found : Level.comparison.operator? op.symbol = some (.compare op) := by cases op <;> rfl
  have stops : Level.sum.Closes (front middle) := by
    rw [sign]
    exact operator_closes found
  rw [List.length_append,List.length_cons,Level.rank] at enough
  obtain ⟨n,rfl⟩ : ∃ m, n = m + 2 := ⟨n - 2,by omega⟩
  rw [readLevel_binary (by decide) (by decide),Level.next]
  rw [first.complete before stops (n := n + 1) (by simp only [Level.rank]; omega)]
  change readOperators v (n + 1) .comparison l middle = _
  rw [readOperators,sign,found]
  change (readLevel v n .sum (advance middle) >>= _) = _
  rw [second.complete behind (closed.mono (by decide)) (by simp only [Level.rank]; omega)]
  rw [← goes (j + 1) (Nat.lt_succ_self j)]
  exact (resume_closed closed (Nat.succ_pos j)).symm

theorem negation_reads (inner : LevelReads v .sign e ss) : LevelReads v .sign (.neg e) (.minus :: ss) := by
  intro ts rest spelt closed j result goes n enough
  obtain ⟨sign,behind⟩ := spelt
  rw [List.length_cons,Level.rank] at enough
  obtain ⟨n,rfl⟩ : ∃ m, n = m + 1 := ⟨n - 1,by omega⟩
  have stops : Level.sign.Closes (front rest) := by
    refine ⟨closed.1,closed.2.1,fun other higher => ?_⟩
    by_cases same : other = .sign
    · subst same
      rfl
    · exact closed.2.2 other (by revert higher same; cases other <;> decide)
  rw [readLevel,if_pos sign,inner.complete behind stops (by simp only [Level.rank]; omega)]
  exact goes (j + 1) (Nat.lt_succ_self j)

end TreeAudit.Query
