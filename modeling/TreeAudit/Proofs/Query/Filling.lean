import TreeAudit.Proofs.Query.Allowance

-- Variables and literals. A variable for a single text or number is read as the literal would be: the two
-- readings go side by side, the literal one token behind, and differ at most in where they find fault with the
-- symbols.
namespace TreeAudit.Query

-- Tokens with variables in them, and the same tokens with literals in place of some of the variables.
inductive Filled (v : Vocabulary) : List Token → List Token → Prop
  | last (k other : Token) : k.symbol = .finish → other.symbol = .finish → Filled v [k] [other]
  | same (k other : Token) {ts us : List Token} : k.symbol ≠ .finish → other.symbol = k.symbol → Filled v ts us →
    Filled v (k :: ts) (other :: us)
  | literal (sign k other : Token) {name : String} {value : Value} {ts us : List Token} :
    sign.symbol = .dollar → k.symbol = .name name → v.bindings.lookup name = some value →
    value.print = [other.symbol] → Filled v ts us → Filled v (sign :: k :: ts) (other :: us)

-- Two computations that come to results which belong together, or to the same failure, or to two mistakes of
-- spelling.
inductive Alike (together : α → β → Prop) : Except Failure α → Except Failure β → Prop
  | read {a : α} {b : β} : together a b → Alike together (.ok a) (.ok b)
  | refused (f : Failure) : Alike together (.error f) (.error f)
  | misspelt {offset other : Nat} {problem second : SyntaxProblem} :
    Alike together (.error (.badSyntax offset problem)) (.error (.badSyntax other second))

-- What was read, and what is left.
def Beside (v : Vocabulary) (r s : α × List Token) : Prop := r.1 = s.1 ∧ Filled v r.2 s.2

-- The symbols that a variable or a literal starts with.
def Symbol.isOperand : Symbol → Bool
  | .dollar => true
  | .string _ => true
  | .number _ => true
  | _ => false

variable {v : Vocabulary} {ts us : List Token} {n : Nat} {symbol : Symbol} {what : Expectation} {level : Level}

section Alike
variable {together : α → β → Prop} {also : γ → δ → Prop} {x : Except Failure α} {y : Except Failure β}
  {g : α → Except Failure γ} {h : β → Except Failure δ}

theorem Alike.bind (first : Alike together x y) (next : ∀ a b, together a b → Alike also (g a) (h b)) :
    Alike also (x >>= g) (y >>= h) := by
  cases first with
  | read both => exact next _ _ both
  | refused f => exact .refused f
  | misspelt => exact .misspelt

theorem Alike.step {g : α × List Token → Except Failure γ} {h : α × List Token → Except Failure δ}
    {x y : Except Failure (α × List Token)} (first : Alike (Beside v) x y)
    (next : ∀ a ts us, Filled v ts us → Alike also (g (a,ts)) (h (a,us))) : Alike also (x >>= g) (y >>= h) := by
  refine first.bind ?_
  rintro ⟨a,ts⟩ ⟨_,us⟩ ⟨rfl,filled⟩
  exact next a ts us filled

theorem Alike.ite {c d : Prop} [Decidable c] [Decidable d] {left : Except Failure α} {right : Except Failure β}
    (same : c ↔ d) (yes : c → d → Alike together x y) (no : ¬c → ¬d → Alike together left right) :
    Alike together (if c then x else left) (if d then y else right) := by
  by_cases holds : d
  · rw [if_pos (same.mpr holds),if_pos holds]
    exact yes (same.mpr holds) holds
  · rw [if_neg (mt same.mp holds),if_neg holds]
    exact no (mt same.mp holds) holds

theorem Alike.done {a : α} (filled : Filled v ts us) : Alike (Beside v) (.ok (a,ts)) (.ok (a,us)) :=
  .read ⟨rfl,filled⟩

end Alike

theorem print_literal {value : Value} (spelt : value.print = [symbol]) :
    (∃ s, value = Value.text s ∧ symbol = .string s) ∨ ∃ x, value = Value.number x ∧ symbol = .number x := by
  unfold Value.print at spelt
  split at spelt
  · cases spelt
    exact .inl ⟨_,rfl,rfl⟩
  · cases spelt
    exact .inr ⟨_,rfl,rfl⟩
  · cases spelt

theorem Filled.advance_cons {k : Token} (filled : Filled v ts us) : advance (k :: ts) = ts := by
  cases filled <;> rfl

theorem Filled.cons_advance {k : Token} (filled : Filled v ts us) : advance (k :: us) = us := by
  cases filled <;> rfl

-- What stands in front: the same symbol, or a whole variable and its literal.
theorem Filled.cases_front (filled : Filled v ts us) :
    (front ts = front us ∧ Filled v (advance ts) (advance us)) ∨
    ∃ name value, front ts = .dollar ∧ front (advance ts) = .name name ∧ v.bindings.lookup name = some value ∧
      value.print = [front us] ∧ Filled v (advance (advance ts)) (advance us) := by
  cases filled with
  | last k other finish ends => exact .inl ⟨finish.trans ends.symm,.last k other finish ends⟩
  | same k other _ equal later =>
    rw [later.advance_cons,later.cons_advance]
    exact .inl ⟨equal.symm,later⟩
  | literal sign k other dollar named found spelt later =>
    refine .inr ⟨_,_,dollar,named,found,spelt,?_⟩
    rw [advance_past sign (List.cons_ne_nil _ _),later.advance_cons,later.cons_advance]
    exact later

theorem Filled.front_alike (filled : Filled v ts us) :
    front ts = front us ∨ front ts = .dollar ∧ (front us).isOperand = true := by
  rcases filled.cases_front with ⟨same,_⟩ | ⟨_,value,dollar,_,_,spelt,_⟩
  · exact .inl same
  · refine .inr ⟨dollar,?_⟩
    rcases print_literal spelt with ⟨_,_,shown⟩ | ⟨_,_,shown⟩
    · rw [shown]; rfl
    · rw [shown]; rfl

-- A test that tells no operand from another gives the same answer on both sides.
theorem Filled.test (filled : Filled v ts us) (test : Symbol → γ)
    (blind : ∀ symbol, symbol.isOperand = true → test symbol = test .dollar) : test (front ts) = test (front us) := by
  rcases filled.front_alike with same | ⟨dollar,operand⟩
  · rw [same]
  · rw [dollar,blind _ operand]

theorem Filled.front_iff (filled : Filled v ts us) (plain : symbol.isOperand = false) :
    front ts = symbol ↔ front us = symbol := by
  rcases filled.front_alike with same | ⟨dollar,operand⟩
  · rw [same]
  · constructor
    · intro found
      rw [← found,dollar] at plain
      cases plain
    · intro found
      rw [← found,operand] at plain
      cases plain

theorem Filled.past (filled : Filled v ts us) (plain : symbol.isOperand = false) (found : front us = symbol) :
    Filled v (advance ts) (advance us) := by
  rcases filled.cases_front with ⟨_,later⟩ | ⟨_,value,dollar,_⟩
  · exact later
  · rw [(filled.front_iff plain).mpr found] at dollar
    rw [dollar] at plain
    cases plain

theorem Filled.operator (filled : Filled v ts us) (level : Level) :
    level.operator? (front ts) = level.operator? (front us) := by
  refine filled.test level.operator? fun symbol operand => ?_
  cases symbol <;> cases operand <;> cases level <;> rfl

theorem Filled.startsStep (filled : Filled v ts us) : startsStep ts = startsStep us := by
  unfold Query.startsStep
  rcases filled.front_alike with same | ⟨dollar,operand⟩
  · rw [same]
  · rw [dollar]
    revert operand
    cases front us <;> intro operand <;> first | rfl | cases operand

theorem Filled.startsPrimary (filled : Filled v ts us) : startsPrimary ts = startsPrimary us := by
  unfold Query.startsPrimary
  rcases filled.cases_front with ⟨same,later⟩ | ⟨_,_,dollar,_,_,spelt,_⟩
  · have opening : front (advance ts) = .leftParen ↔ front (advance us) = .leftParen := later.front_iff rfl
    simp only [same,second_eq,opening]
  · rcases print_literal spelt with ⟨_,_,shown⟩ | ⟨_,_,shown⟩
    · rw [dollar,shown]
    · rw [dollar,shown]

theorem Filled.continuesPath (filled : Filled v ts us) :
    continuesPath (front ts) = continuesPath (front us) := by
  refine filled.test Query.continuesPath fun symbol operand => ?_
  cases symbol <;> first | rfl | cases operand

theorem Filled.alone_iff (filled : Filled v ts us) :
    (front ts = .dot && !Query.continuesPath (second ts)) = true ↔
      (front us = .dot && !Query.continuesPath (second us)) = true := by
  rw [Bool.and_eq_true,Bool.and_eq_true,decide_eq_true_iff,decide_eq_true_iff,filled.front_iff rfl]
  refine and_congr_right fun dot => ?_
  rw [second_eq,second_eq,(filled.past rfl dot).continuesPath]

theorem operator_plain {combine : Expr → Expr → Expr} (found : level.operator? symbol = some combine) :
    symbol.isOperand = false := by
  unfold Level.operator? at found
  split at found
  all_goals first | rfl | cases found

theorem Alike.expect {together : α → β → Prop} {g : List Token → Except Failure α}
    {h : List Token → Except Failure β} (filled : Filled v ts us) (plain : symbol.isOperand = false)
    (next : Filled v (advance ts) (advance us) → Alike together (g (advance ts)) (h (advance us))) :
    Alike together (expect symbol what ts >>= g) (expect symbol what us >>= h) := by
  unfold Query.expect
  by_cases found : front us = symbol
  · rw [if_pos ((filled.front_iff plain).mpr found),if_pos found]
    exact next (filled.past plain found)
  · rw [if_neg (mt (filled.front_iff plain).mp found),if_neg found]
    exact .misspelt

theorem readTest_alike (filled : Filled v ts us) : Alike (Beside v) (readTest ts) (readTest us) := by
  unfold readTest
  dsimp only
  rcases filled.cases_front with ⟨same,later⟩ | ⟨_,_,dollar,_,_,spelt,_⟩
  · rw [same]
    cases front us with
    | star => exact Alike.done later
    | name n =>
      have bracket : front (advance ts) = .leftParen ↔ front (advance us) = .leftParen := later.front_iff rfl
      refine Alike.ite (by simp only [bracket]) (fun _ both => ?_) fun _ _ => Alike.done later
      have opening : front (advance us) = .leftParen := of_decide_eq_true (Bool.and_eq_true_iff.mp both).2
      exact Alike.expect (later.past rfl opening) rfl fun rest => Alike.done rest
    | _ => exact .misspelt
  · rcases print_literal spelt with ⟨_,_,shown⟩ | ⟨_,_,shown⟩
    all_goals
      rw [dollar,shown]
      exact .misspelt

-- The axis, the test and what is left.
def BesideAxis (v : Vocabulary) (r s : Axis × NodeTest × List Token) : Prop := r.1 = s.1 ∧ Beside v r.2 s.2

theorem readAxisTest_alike (filled : Filled v ts us) :
    Alike (BesideAxis v) (readAxisTest ts) (readAxisTest us) := by
  have tested : ∀ axis : Axis, ∀ {ts us}, Filled v ts us → Alike (BesideAxis v)
      (readTest ts >>= fun r => .ok (axis,r.1,r.2)) (readTest us >>= fun r => .ok (axis,r.1,r.2)) := by
    intro axis ts us filled
    exact (readTest_alike filled).step fun test ts us filled => .read ⟨rfl,rfl,filled⟩
  unfold readAxisTest
  rcases filled.cases_front with ⟨same,later⟩ | ⟨_,_,dollar,_,_,spelt,_⟩
  · rw [same]
    cases front us with
    | dot => exact .read ⟨rfl,rfl,later⟩
    | dotDot => exact .read ⟨rfl,rfl,later⟩
    | «at» => exact tested _ later
    | name n =>
      dsimp only
      rw [second_eq,second_eq]
      refine Alike.ite (later.front_iff rfl) (fun _ colons => ?_) fun _ _ => tested _ filled
      cases Axis.ofName? n with
      | some axis => exact tested axis (later.past rfl colons)
      | none => exact .misspelt
    | _ => exact tested _ filled
  · rcases print_literal spelt with ⟨_,_,shown⟩ | ⟨_,_,shown⟩
    all_goals
      rw [dollar,shown]
      exact tested _ filled

-- What every reading function promises at one allowance for depth, the same for both sides.
structure Fills (v : Vocabulary) (n : Nat) : Prop where
  level : ∀ level ts us, Filled v ts us → Alike (Beside v) (readLevel v n level ts) (readLevel v n level us)
  operators : ∀ level left ts us, Filled v ts us →
    Alike (Beside v) (readOperators v n level left ts) (readOperators v n level left us)
  path : ∀ ts us, Filled v ts us → Alike (Beside v) (readPath v n ts) (readPath v n us)
  steps : ∀ ts us, Filled v ts us → Alike (Beside v) (readSteps v n ts) (readSteps v n us)
  step : ∀ ts us, Filled v ts us → Alike (Beside v) (readStep v n ts) (readStep v n us)
  predicates : ∀ ts us, Filled v ts us → Alike (Beside v) (readPredicates v n ts) (readPredicates v n us)
  primary : ∀ ts us, Filled v ts us → Alike (Beside v) (readPrimary v n ts) (readPrimary v n us)
  arguments : ∀ ts us, Filled v ts us → Alike (Beside v) (readArguments v n ts) (readArguments v n us)
  argumentList : ∀ ts us, Filled v ts us → Alike (Beside v) (readArgumentList v n ts) (readArgumentList v n us)

theorem readLevel_alike (fills : Fills v n) (level : Level) (filled : Filled v ts us) :
    Alike (Beside v) (readLevel v (n + 1) level ts) (readLevel v (n + 1) level us) := by
  by_cases inner : level = .path
  · subst inner
    exact fills.path ts us filled
  by_cases signed : level = .sign
  · subst signed
    rw [readLevel,readLevel]
    refine Alike.ite (filled.front_iff rfl) (fun _ minus => ?_) fun _ _ => fills.level .union ts us filled
    exact (fills.level .sign _ _ (filled.past rfl minus)).step fun e ts us filled => Alike.done filled
  · rw [readLevel_binary signed inner,readLevel_binary signed inner]
    exact (fills.level level.next ts us filled).step fun left ts us filled => fills.operators level left ts us filled

theorem readOperators_alike (fills : Fills v n) (level : Level) (left : Expr) (filled : Filled v ts us) :
    Alike (Beside v) (readOperators v (n + 1) level left ts) (readOperators v (n + 1) level left us) := by
  rw [readOperators,readOperators,filled.operator level]
  cases found : level.operator? (front us) with
  | none => exact Alike.done filled
  | some combine =>
    have later := filled.past (operator_plain found) rfl
    refine (fills.level level.next _ _ later).step fun right ts us filled => ?_
    refine Alike.ite Iff.rfl (fun _ _ => Alike.done filled) fun _ _ => ?_
    exact fills.operators level _ ts us filled

theorem steps_alike {together : α → β → Prop} {g : Step × List Token → List Step × List Token → Except Failure α}
    {h : Step × List Token → List Step × List Token → Except Failure β} (fills : Fills v n)
    (filled : Filled v ts us)
    (next : ∀ s left right r ts us, Filled v ts us → Alike together (g (s,left) (r,ts)) (h (s,right) (r,us))) :
    Alike together (readStep v n ts >>= fun s => readSteps v n s.2 >>= g s)
      (readStep v n us >>= fun s => readSteps v n s.2 >>= h s) :=
  (fills.step ts us filled).step fun s left right filled =>
    (fills.steps left right filled).step fun r ts us filled => next s left right r ts us filled

theorem readPath_alike (fills : Fills v n) (filled : Filled v ts us) :
    Alike (Beside v) (readPath v (n + 1) ts) (readPath v (n + 1) us) := by
  rw [readPath,readPath]
  refine Alike.ite (filled.front_iff rfl) (fun _ slash => ?_) fun _ _ => ?_
  · have later := filled.past rfl slash
    refine Alike.ite (by rw [later.startsStep]) (fun _ _ => ?_) fun _ _ => .misspelt
    exact steps_alike fills later fun _ _ _ _ _ _ filled => Alike.done filled
  refine Alike.ite (filled.front_iff rfl) (fun _ slashes => ?_) fun _ _ => ?_
  · have later := filled.past rfl slashes
    refine Alike.ite (by rw [later.startsStep]) (fun _ _ => ?_) fun _ _ => .misspelt
    exact steps_alike fills later fun _ _ _ _ _ _ filled => Alike.done filled
  refine Alike.ite (by rw [filled.startsPrimary]) (fun _ _ => ?_) fun _ _ => ?_
  · refine (fills.primary ts us filled).step fun e ts us filled => ?_
    refine (fills.predicates ts us filled).step fun predicates ts us filled => ?_
    exact (fills.steps ts us filled).step fun steps ts us filled => Alike.done filled
  refine Alike.ite (by rw [filled.startsStep]) (fun _ _ => ?_) fun _ _ => .misspelt
  refine Alike.ite filled.alone_iff (fun _ alone => ?_) fun _ _ => ?_
  · have dot : front us = .dot := of_decide_eq_true (Bool.and_eq_true_iff.mp alone).1
    exact Alike.done (filled.past rfl dot)
  · exact steps_alike fills filled fun _ _ _ _ _ _ filled => Alike.done filled

theorem readSteps_alike (fills : Fills v n) (filled : Filled v ts us) :
    Alike (Beside v) (readSteps v (n + 1) ts) (readSteps v (n + 1) us) := by
  rw [readSteps,readSteps]
  refine Alike.ite (filled.front_iff rfl) (fun _ slash => ?_) fun _ _ => ?_
  · exact steps_alike fills (filled.past rfl slash) fun _ _ _ _ _ _ filled => Alike.done filled
  refine Alike.ite (filled.front_iff rfl) (fun _ slashes => ?_) fun _ _ => Alike.done filled
  have later := filled.past rfl slashes
  refine Alike.ite (by rw [later.startsStep]) (fun _ _ => ?_) fun _ _ => .misspelt
  exact steps_alike fills later fun _ _ _ _ _ _ filled => Alike.done filled

theorem readStep_alike (fills : Fills v n) (filled : Filled v ts us) :
    Alike (Beside v) (readStep v (n + 1) ts) (readStep v (n + 1) us) := by
  rw [readStep,readStep]
  refine (readAxisTest_alike filled).bind ?_
  rintro ⟨axis,test,ts⟩ ⟨_,_,us⟩ ⟨rfl,rfl,filled⟩
  exact (fills.predicates ts us filled).step fun predicates ts us filled => Alike.done filled

theorem readPredicates_alike (fills : Fills v n) (filled : Filled v ts us) :
    Alike (Beside v) (readPredicates v (n + 1) ts) (readPredicates v (n + 1) us) := by
  rw [readPredicates,readPredicates]
  refine Alike.ite (filled.front_iff rfl) (fun _ bracket => ?_) fun _ _ => Alike.done filled
  refine (fills.level .disjunction _ _ (filled.past rfl bracket)).step fun e ts us filled => ?_
  refine Alike.expect filled rfl fun filled => ?_
  exact (fills.predicates _ _ filled).step fun es ts us filled => Alike.done filled

theorem readPrimary_alike (fills : Fills v n) (filled : Filled v ts us) :
    Alike (Beside v) (readPrimary v (n + 1) ts) (readPrimary v (n + 1) us) := by
  rw [readPrimary,readPrimary]
  dsimp only
  rcases filled.cases_front with ⟨same,later⟩ | ⟨name,value,dollar,named,found,spelt,later⟩
  · rw [same]
    cases front us with
    | string s => exact Alike.done later
    | number x => exact Alike.done later
    | dollar =>
      dsimp only
      rcases later.cases_front with ⟨same,later⟩ | ⟨_,_,dollar,_,_,spelt,_⟩
      · rw [same]
        cases front (advance us) with
        | name name =>
          dsimp only [Vocabulary.variable]
          cases v.bindings.lookup name with
          | some value => exact Alike.done later
          | none => exact .refused _
        | _ => exact .misspelt
      · rcases print_literal spelt with ⟨_,_,shown⟩ | ⟨_,_,shown⟩
        all_goals
          rw [dollar,shown]
          exact .misspelt
    | leftParen =>
      refine Alike.ite (later.front_iff rfl) (fun _ closing => Alike.done (later.past rfl closing)) fun _ _ => ?_
      refine (fills.level .disjunction _ _ later).step fun e ts us filled => ?_
      exact Alike.expect filled rfl fun filled => Alike.done filled
    | name name =>
      refine Alike.expect later rfl fun filled => ?_
      refine (fills.arguments _ _ filled).step fun args ts us filled => ?_
      dsimp only
      cases v.call name args with
      | ok e => exact Alike.done filled
      | error f => exact .refused f
    | _ => exact .misspelt
  · dsimp only [Vocabulary.variable]
    rw [dollar]
    dsimp only
    rw [named]
    dsimp only
    rw [found]
    rcases print_literal spelt with ⟨s,rfl,shown⟩ | ⟨x,rfl,shown⟩
    · rw [shown]
      exact Alike.done later
    · rw [shown]
      exact Alike.done later

theorem readArguments_alike (fills : Fills v n) (filled : Filled v ts us) :
    Alike (Beside v) (readArguments v (n + 1) ts) (readArguments v (n + 1) us) := by
  rw [readArguments,readArguments]
  refine Alike.ite (filled.front_iff rfl) (fun _ closing => ?_) fun _ _ => fills.argumentList ts us filled
  exact Alike.done (filled.past rfl closing)

theorem readArgumentList_alike (fills : Fills v n) (filled : Filled v ts us) :
    Alike (Beside v) (readArgumentList v (n + 1) ts) (readArgumentList v (n + 1) us) := by
  rw [readArgumentList,readArgumentList]
  refine (fills.level .disjunction ts us filled).step fun e ts us filled => ?_
  refine Alike.ite (filled.front_iff rfl) (fun _ comma => ?_) fun _ _ => ?_
  · exact (fills.argumentList _ _ (filled.past rfl comma)).step fun es ts us filled => Alike.done filled
  · exact Alike.expect filled rfl fun filled => Alike.done filled

theorem fills_always (v : Vocabulary) (n : Nat) : Fills v n := by
  induction n with
  | zero =>
    constructor
    all_goals intros; exact .misspelt
  | succ n fills =>
    exact ⟨fun level _ _ filled => readLevel_alike fills level filled,
      fun level left _ _ filled => readOperators_alike fills level left filled,
      fun _ _ filled => readPath_alike fills filled,fun _ _ filled => readSteps_alike fills filled,
      fun _ _ filled => readStep_alike fills filled,fun _ _ filled => readPredicates_alike fills filled,
      fun _ _ filled => readPrimary_alike fills filled,fun _ _ filled => readArguments_alike fills filled,
      fun _ _ filled => readArgumentList_alike fills filled⟩

theorem Filled.shorter (filled : Filled v ts us) : us.length ≤ ts.length ∧ Ended us := by
  induction filled with
  | last k other _ finish => exact ⟨Nat.le_refl _,.last other finish⟩
  | same k other some equal _ ih => exact ⟨Nat.succ_le_succ ih.1,.more other (equal ▸ some) ih.2⟩
  | literal sign k other _ _ _ spelt _ ih =>
    refine ⟨Nat.le_succ_of_le (Nat.succ_le_succ ih.1),.more other ?_ ih.2⟩
    rcases print_literal spelt with ⟨_,_,shown⟩ | ⟨_,_,shown⟩
    · simp [shown]
    · simp [shown]

-- The side with the literals has fewer tokens; its own allowance would do as well as that of the other.
theorem parse_alike (filled : Filled v ts us) : Alike Eq (parse v ts) (parse v us) := by
  obtain ⟨fewer,ended⟩ := filled.shorter
  have larger : depthAllowance us ≤ depthAllowance ts := by
    unfold depthAllowance
    omega
  unfold parse
  rw [← parse_settled v ended larger]
  refine ((fills_always v _).level .disjunction ts us filled).step fun e ts us filled => ?_
  exact Alike.ite (filled.front_iff rfl) (fun _ _ => .read rfl) fun _ _ => .misspelt

end TreeAudit.Query
