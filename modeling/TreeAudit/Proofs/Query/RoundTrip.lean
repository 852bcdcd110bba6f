import TreeAudit.Proofs.Query.Paths
import TreeAudit.Proofs.Query.Typing

-- Printing and reading back. An expression that is read back at its own level is read back wherever it
-- can stand, and so, form by form, everything that can be written without variables is.
namespace TreeAudit.Query
variable {v : Vocabulary} {e l r : Expr} {symbol : Symbol} {ss left right : List Symbol}
  {ts rest : List Token} {level : Level} {n j : Nat}

-- From its own level down to the weaker ones an expression stands as it is.
theorem bare_reads (opening : Opens e.rank e.print) (own : LevelReads v e.level e e.print) (level : Level) :
    level.rank ≤ e.level.rank → LevelReads v level e e.print := by
  induction level using Level.climb with
  | top =>
    intro bound
    have same : e.level = .path := by
      revert bound
      cases e.level <;> decide
    exact same ▸ own
  | step level inner above =>
    intro bound
    by_cases same : e.level = level
    · exact same ▸ own
    · have next := Level.rank_next inner
      have higher : level.next.rank ≤ e.level.rank := by
        have other : level.rank ≠ e.level.rank := by
          revert same
          cases level <;> cases e.level <;> decide
        omega
      refine descend inner opening.some (fun ts rest spelt signed => ?_) (above higher)
      subst signed
      have strong : 5 < e.rank := by
        change 6 ≤ e.level.rank at higher
        rcases e.rank_level with same | ⟨_,high,_⟩ <;> omega
      exact (opening.front spelt).2 strong

-- In parentheses it stands at every level.
theorem enclosed_reads (primary : PrimaryReads v e (.leftParen :: ss)) (level : Level) :
    LevelReads v level e (.leftParen :: ss) := by
  have some : 0 < (Symbol.leftParen :: ss).length := Nat.succ_pos _
  induction level using Level.climb with
  | top => exact value_reads some (primary.value some)
  | step level inner above =>
    refine descend inner some (fun ts rest spelt _ => ?_) above
    rw [spelt.1]
    decide

-- So it is enough to read an expression at its own level, and as it is where it is not to be enclosed.
theorem legible_of (opening : Opens e.rank e.print) (own : LevelReads v e.level e e.print)
    (primary : e.rank = 9 → PrimaryReads v e e.print) (value : e.rank = 8 → ValueReads v e e.print) :
    Legible v e := by
  have ranks := e.rank_level
  have wrapped : PrimaryReads v e (.leftParen :: (e.print ++ [.rightParen])) :=
    parenthesized_reads (bare_reads opening own .disjunction (Nat.zero_le _))
      fun ts rest spelt => (opening.front spelt).1
  refine ⟨opening,fun level => ?_,?_,?_⟩
  · have bound : level.rank ≤ 7 := level.rank_path
    unfold Expr.enclosed
    split
    · exact enclosed_reads wrapped level
    · refine bare_reads opening own level ?_
      rcases ranks with same | ⟨same,_⟩
      · omega
      · exact same ▸ bound
  · unfold Expr.enclosed
    split
    · exact wrapped
    · have top : e.level.rank ≤ 7 := e.level.rank_path
      exact primary (by omega)
  · unfold Expr.enclosed
    split
    · exact wrapped.value (Nat.succ_pos _)
    · have top : e.level.rank ≤ 7 := e.level.rank_path
      by_cases last : e.rank = 8
      · exact value last
      · exact (primary (by omega)).value opening.some

theorem arith_operator (op : Operation) :
    op.level.operator? op.symbol = some (.arith op) ∧ op.level ≠ .comparison := by
  cases op <;> exact ⟨rfl,by decide⟩

theorem infix_legible {combine : Expr → Expr → Expr} (found : level.operator? symbol = some combine)
    (several : level ≠ .comparison) (left : Legible v l) (right : Legible v r)
    (own : (combine l r).level = level ∧ (combine l r).rank = level.rank)
    (shown : (combine l r).print =
      l.enclosed level.rank l.print ++ symbol :: r.enclosed level.next.rank r.print) :
    Legible v (combine l r) := by
  have weak : (combine l r).rank ≤ 7 := own.2 ▸ level.rank_path
  refine legible_of ?_ ?_ (fun same => by omega) (fun same => by omega)
  · rw [shown,own.2]
    exact left.enclosed_opening level.rank _
  · rw [shown,own.1]
    exact infix_reads found several (left.level level) (right.level level.next)

theorem call_named {l : Language} {bindings : List (String × Value)} {f : QueryFunction} {args : List Expr}
    {name : String} (builtIn : l ∈ Registry.builtIn.languages)
    (called : Vocabulary.call ⟨l,bindings⟩ name args = .ok (.call f args)) :
    Vocabulary.call ⟨l,bindings⟩ f.name args = .ok (.call f args) ∧
      Axis.ofName? f.name = none ∧ f.name ≠ "node" := by
  obtain ⟨g,same,found,counted⟩ := call_sound called
  cases same
  obtain ⟨again,apart⟩ := function_named builtIn found
  refine ⟨?_,apart⟩
  rw [← called]
  simp only [Vocabulary.call,found,again,counted,ne_eq,not_true_eq_false,if_false]

-- One case for each form of expression; all that stands inside is legible.
theorem legible_step {l : Language} {bindings : List (String × Value)}
    (builtIn : l ∈ Registry.builtIn.languages) (sound : e.Sound ⟨l,bindings⟩ Value.Literal)
    (inner : ∀ p ∈ e.parts, Legible ⟨l,bindings⟩ p) : Legible ⟨l,bindings⟩ e := by
  cases e with
  | const value =>
    have primary := const_primary (v := ⟨l,bindings⟩) sound
    have opening := const_opening sound
    exact legible_of opening (value_reads opening.some (primary.value opening.some)) (fun _ => primary) nofun
  | focus => exact legible_of ⟨_,_,rfl,by decide,fun _ => by decide⟩ focus_reads nofun nofun
  | or left right =>
    obtain ⟨one,two⟩ := Expr.forall_pair inner
    have found : Level.disjunction.operator? (.name "or") = some .or := rfl
    exact infix_legible found (by decide) one two ⟨rfl,rfl⟩ rfl
  | and left right =>
    obtain ⟨one,two⟩ := Expr.forall_pair inner
    have found : Level.conjunction.operator? (.name "and") = some .and := rfl
    exact infix_legible found (by decide) one two ⟨rfl,rfl⟩ rfl
  | compare op left right =>
    obtain ⟨one,two⟩ := Expr.forall_pair inner
    have opening := one.enclosed_opening Level.sum.rank (op.symbol :: right.enclosed Level.sum.rank right.print)
    exact legible_of (opening.mono (Nat.le_succ 2)) (comparison_reads op (one.level .sum) (two.level .sum))
      nofun nofun
  | arith op left right =>
    obtain ⟨one,two⟩ := Expr.forall_pair inner
    exact infix_legible (arith_operator op).1 (arith_operator op).2 one two ⟨rfl,rfl⟩ rfl
  | neg e =>
    have operand := inner e (List.mem_singleton.mpr rfl)
    exact legible_of ⟨.minus,_,rfl,by decide,fun high => absurd high (Nat.lt_irrefl 5)⟩
      (negation_reads (operand.level .sign)) nofun nofun
  | union left right =>
    obtain ⟨one,two⟩ := Expr.forall_pair inner
    have found : Level.union.operator? .bar = some .union := rfl
    exact infix_legible found (by decide) one two ⟨rfl,rfl⟩ rfl
  | filter e predicates =>
    obtain ⟨start,kept⟩ := List.forall_mem_cons.mp inner
    have value := filter_value (start.enclosed_some 9) sound start.primary (predicates_read kept)
    have opening := start.enclosed_opening 9 (printPredicates predicates)
    exact legible_of (opening.mono (Nat.le_succ 8)) (value_reads opening.some value) nofun fun _ => value
  | path origin steps =>
    obtain ⟨start,later⟩ := List.forall_mem_append.mp inner
    have legible : ∀ s ∈ steps, ∀ p ∈ s.predicates, Legible ⟨l,bindings⟩ p :=
      fun s among p member => later p (List.mem_flatMap.mpr ⟨s,among,member⟩)
    cases origin with
    | document =>
      cases steps with
      | nil => exact absurd rfl sound
      | cons step steps =>
        exact legible_of ⟨.slash,_,rfl,by decide,fun _ => by decide⟩ (document_reads legible) nofun nofun
    | focus =>
      cases steps with
      | nil => exact absurd rfl sound
      | cons step steps =>
        refine legible_of ?_ (relative_reads legible) nofun nofun
        obtain ⟨axis,test,predicates⟩ := step
        exact ⟨.name axis.name,_,rfl,nofun,fun _ => nofun⟩
    | value e =>
      have first := start e (List.mem_singleton.mpr rfl)
      have opening := first.enclosed_opening 8 (printSteps steps)
      exact legible_of (opening.mono (Nat.le_succ 7)) (continued_reads first sound legible) nofun nofun
  | call f args =>
    obtain ⟨name,called⟩ := sound
    obtain ⟨again,apart⟩ := call_named builtIn called
    have primary := call_primary inner apart again
    exact legible_of ⟨.name f.name,_,rfl,nofun,fun _ => nofun⟩
      (value_reads (Nat.succ_pos _) (primary.value (Nat.succ_pos _))) (fun _ => primary) nofun

theorem legible {l : Language} {bindings : List (String × Value)} (builtIn : l ∈ Registry.builtIn.languages)
    (compiled : e.Compiled ⟨l,bindings⟩ Value.Literal) : Legible ⟨l,bindings⟩ e := by
  induction e using Expr.induct_parts with
  | whole e ih =>
    refine legible_step builtIn compiled.here fun p member => ?_
    exact ih p member (compiled.part member)

theorem parse_print {l : Language} {bindings : List (String × Value)}
    (builtIn : l ∈ Registry.builtIn.languages) (compiled : e.Compiled ⟨l,bindings⟩ Value.Literal)
    (printed : ts.map Token.symbol = e.print ++ [.finish]) : parse ⟨l,bindings⟩ ts = .ok e := by
  obtain ⟨k,last,spelt⟩ := spells_of_map printed
  have counted : ts.length = e.print.length + 1 := by
    rw [← List.length_map (f := Token.symbol),printed,List.length_append,List.length_singleton]
  have complete := (legible builtIn compiled).whole.complete spelt (closing_closes (.inl last))
    (n := depthAllowance ts) (by rw [depthAllowance]; omega)
  rw [parse,complete]
  exact if_pos last

-- Whatever the reader made of symbols without variables is read again from its printed form, and so is
-- every expression that could have been written without variables.
theorem print_roundtrip {l : Language} {bindings : List (String × Value)}
    (builtIn : l ∈ Registry.builtIn.languages) :
    (∀ ts e, (∀ k ∈ ts, k.symbol ≠ .dollar) → parse ⟨l,bindings⟩ ts = .ok e →
      ∀ printed : List Token, printed.map Token.symbol = e.print ++ [.finish] →
        parse ⟨l,bindings⟩ printed = .ok e) ∧
    ∀ e : Expr, e.Compiled ⟨l,bindings⟩ Value.Literal →
      ∀ printed : List Token, printed.map Token.symbol = e.print ++ [.finish] →
        parse ⟨l,bindings⟩ printed = .ok e := by
  refine ⟨fun ts e free accepted printed => ?_,fun e compiled printed => parse_print builtIn compiled⟩
  have supplies : Vocabulary.Supplies ⟨l,bindings⟩ Value.Literal ts := by
    refine ⟨fun _ literal => literal,?_⟩
    rintro ⟨k,member,sign⟩
    exact absurd sign (free k member)
  exact parse_print builtIn (parse_compiled supplies accepted)

theorem print_roundtrip_sample :
    let written : List Token := [⟨.doubleSlash,0⟩,⟨.name "Block",2⟩,⟨.leftBracket,7⟩,⟨.string "a",8⟩,
      ⟨.name "and",12⟩,⟨.leftParen,16⟩,⟨.string "b",17⟩,⟨.name "or",21⟩,⟨.dot,24⟩,⟨.rightParen,25⟩,
      ⟨.rightBracket,26⟩,⟨.finish,27⟩]
    let e : Expr := .path .document [Step.downward,.mk .child (.name "Block")
      [.and (.const (Value.text "a")) (.or (.const (Value.text "b")) .focus)]]
    parse ⟨Java.language,[]⟩ written = .ok e ∧
      parse ⟨Java.language,[]⟩ ((e.print ++ [Symbol.finish]).map (⟨·,0⟩)) = .ok e := by
  intro written e
  have accepted : parse ⟨Java.language,[]⟩ written = .ok e := rfl
  have free : ∀ k ∈ written, k.symbol ≠ .dollar := by decide
  obtain ⟨again,_⟩ := @print_roundtrip Java.language [] List.mem_cons_self
  exact ⟨accepted,again written e free accepted _ rfl⟩

end TreeAudit.Query
