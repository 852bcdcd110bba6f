import TreeAudit.Proofs.Query.Printing
import TreeAudit.Proofs.Query.Reading

-- Symbols at the front of tokens, and what may follow them. Spelling is told by the front and the advance
-- of the reader alone, so that it does not matter that the last token is never passed.
namespace TreeAudit.Query

-- The symbols at the front of `ts`, up to `rest`.
def Spells : List Symbol → List Token → List Token → Prop
  | [],ts,rest => ts = rest
  | symbol :: symbols,ts,rest => front ts = symbol ∧ Spells symbols (advance ts) rest

variable {symbol : Symbol} {ss left right : List Symbol} {ts rest : List Token} {level : Level}

theorem second_eq (ts : List Token) : second ts = front (advance ts) := by
  match ts with
  | [] => rfl
  | [t] => rfl
  | t :: u :: ts => rfl

theorem spells_append :
    Spells (left ++ right) ts rest ↔ ∃ middle, Spells left ts middle ∧ Spells right middle rest := by
  induction left generalizing ts with
  | nil =>
    constructor
    · intro all
      exact ⟨ts,rfl,all⟩
    · rintro ⟨middle,same,all⟩
      exact same ▸ all
  | cons symbol left ih =>
    rw [List.cons_append,Spells,ih]
    constructor
    · rintro ⟨first,middle,one,two⟩
      exact ⟨middle,⟨first,one⟩,two⟩
    · rintro ⟨middle,⟨first,one⟩,two⟩
      exact ⟨first,middle,one,two⟩

theorem spells_of_map (spelt : ts.map Token.symbol = ss ++ [symbol]) :
    ∃ k : Token, k.symbol = symbol ∧ Spells ss ts [k] := by
  induction ss generalizing ts with
  | nil =>
    obtain ⟨k,rfl,same⟩ := List.map_eq_singleton_iff.mp spelt
    exact ⟨k,same,rfl⟩
  | cons first ss ih =>
    obtain ⟨t,ts,rfl,same,rest⟩ := List.map_eq_cons_iff.mp spelt
    obtain ⟨k,last,inner⟩ := ih rest
    have more : ts ≠ [] := by
      rintro rfl
      simp at rest
    refine ⟨k,last,same,?_⟩
    rw [advance_past t more]
    exact inner

-- What may follow an expression that was read at a level: nothing that would continue it.
def Level.Closes (level : Level) (symbol : Symbol) : Prop :=
  symbol ≠ .leftParen ∧ continuesPath symbol = false ∧
    ∀ other : Level, level.rank ≤ other.rank → other.operator? symbol = none

-- The level that has to be closed behind a first operand: operators of its own level may follow, except
-- that a comparison takes no second one.
def Level.after : Level → Level
  | .comparison => .comparison
  | level => level.next

theorem Level.Closes.mono {other : Level} (closes : level.Closes symbol) (stronger : level.rank ≤ other.rank) :
    other.Closes symbol :=
  ⟨closes.1,closes.2.1,fun third higher => closes.2.2 third (Nat.le_trans stronger higher)⟩

theorem Level.rank_after (level : Level) : level.rank ≤ level.after.rank := by
  cases level <;> decide

theorem closing_closes (closing : symbol = .finish ∨ symbol = .rightParen ∨ symbol = .rightBracket ∨
    symbol = .comma) : level.Closes symbol := by
  rcases closing with rfl | rfl | rfl | rfl
  all_goals
    refine ⟨by decide,rfl,fun other _ => ?_⟩
    cases other <;> rfl

-- An operator closes the operand before it, as all levels that bind stronger have other operators.
theorem operator_closes {combine : Expr → Expr → Expr} (found : level.operator? symbol = some combine) :
    level.next.Closes symbol := by
  unfold Level.operator? at found
  split at found
  all_goals cases found
  all_goals
    refine ⟨by decide,rfl,fun other higher => ?_⟩
    revert higher
    cases other <;> decide

end TreeAudit.Query
