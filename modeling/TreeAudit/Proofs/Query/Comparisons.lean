import TreeAudit.Proofs.Decimal.Order

-- Comparison read from the other side, and comparison denied. Two values stand to each other as they do
-- turned around under the mirrored comparison, and single items are told apart by `=` and `!=`, and by `<`
-- and `>=` unless they are numbers without an order.
namespace TreeAudit.Query

def Comparison.mirrored : Comparison → Comparison
  | .equal => .equal
  | .notEqual => .notEqual
  | .less => .greater
  | .lessEqual => .greaterEqual
  | .greater => .less
  | .greaterEqual => .lessEqual

-- Single values that are compared as numbers, one of them not being a number.
def Unordered (a b : Atom) : Prop :=
  (∀ c, a ≠ .truth c) ∧ (∀ c, b ≠ .truth c) ∧ ((∃ x, a = .number x) ∨ ∃ x, b = .number x) ∧
    (a.toNumber.isNaN = true ∨ b.toNumber.isNaN = true)

variable (op : Comparison) (a b : Atom) (t : Tree)

theorem orderTexts_swap (s r : String) : orderTexts r s = (orderTexts s r).swap := by
  unfold orderTexts
  by_cases same : s = r
  · simp [same]
  · have other : r ≠ s := Ne.symm same
    by_cases less : s < r
    · simp [same,other,less,String.lt_asymm less]
    · have greater : r < s := lt_of_le_of_ne (not_lt.mp less) other
      simp [same,other,less,greater]

theorem orderTruth_swap (c d : Bool) : orderTruth d c = (orderTruth c d).swap := by
  cases c <;> cases d <;> rfl

theorem orderAtoms_swap : orderAtoms op.mirrored b a = (orderAtoms op a b).map Ordering.swap := by
  have kind : (op.mirrored = .equal ∨ op.mirrored = .notEqual) ↔ (op = .equal ∨ op = .notEqual) := by
    cases op <;> simp [Comparison.mirrored]
  cases a with
  | truth c => cases b <;> exact congrArg some (orderTruth_swap _ _)
  | number x =>
    cases b with
    | truth d => exact congrArg some (orderTruth_swap _ _)
    | _ => exact orderNumbers_swap _ _
  | text s =>
    cases b with
    | truth d => exact congrArg some (orderTruth_swap _ _)
    | number y => exact orderNumbers_swap _ _
    | text r =>
      simp only [orderAtoms,kind,Bool.or_comm (Decimal.ofText r).isNaN]
      split
      · exact congrArg some (orderTexts_swap s r)
      · split
        · exact congrArg some (orderTexts_swap s r)
        · exact orderNumbers_swap _ _

theorem accepts_mirrored (o : Option Ordering) : op.mirrored.accepts (o.map Ordering.swap) = op.accepts o := by
  cases o with
  | none => cases op <;> rfl
  | some o => cases op <;> cases o <;> rfl

theorem holds_mirrored : op.mirrored.holds b a = op.holds a b := by
  rw [Comparison.holds,orderAtoms_swap,accepts_mirrored]
  rfl

theorem compare_mirrored (l r : Value) : op.compare t l r = op.mirrored.compare t r l := by
  rw [Bool.eq_iff_iff]
  simp only [Comparison.compare,List.any_eq_true,holds_mirrored]
  constructor
  · intro ⟨i,left,j,right,holds⟩
    exact ⟨j,right,i,left,holds⟩
  · intro ⟨j,right,i,left,holds⟩
    exact ⟨i,left,j,right,holds⟩

-- Texts that are compared as numbers are numbers both.
theorem orderAtoms_eq_none : orderAtoms op a b = none ↔ Unordered a b := by
  cases a with
  | truth c => cases b <;> simp [orderAtoms,Unordered]
  | number x => cases b <;> simp [orderAtoms,Unordered,orderNumbers_eq_none]
  | text s =>
    cases b with
    | truth d => simp [orderAtoms,Unordered]
    | number y => simp [orderAtoms,Unordered,orderNumbers_eq_none]
    | text r =>
      simp only [orderAtoms,Unordered]
      split
      · simp
      · split
        · simp
        · rename_i readable
          simpa [orderNumbers_eq_none] using readable

theorem notEqual_holds : Comparison.notEqual.holds a b = !Comparison.equal.holds a b := by
  have same : orderAtoms .notEqual a b = orderAtoms .equal a b := by cases a <;> cases b <;> rfl
  rw [Comparison.holds,Comparison.holds,same]
  cases orderAtoms .equal a b with
  | none => rfl
  | some o => cases o <;> rfl

theorem less_holds : (Unordered a b → Comparison.less.holds a b = false ∧ Comparison.greaterEqual.holds a b = false) ∧
    (¬Unordered a b → Comparison.less.holds a b = !Comparison.greaterEqual.holds a b) := by
  have same : orderAtoms .greaterEqual a b = orderAtoms .less a b := by cases a <;> cases b <;> rfl
  rw [← orderAtoms_eq_none .less,Comparison.holds,Comparison.holds,same]
  cases orderAtoms .less a b with
  | none => exact ⟨fun _ => ⟨rfl,rfl⟩,fun some => absurd rfl some⟩
  | some o => exact ⟨nofun,fun _ => by cases o <;> rfl⟩

theorem compare_single (i j : Item) : op.compare t [i] [j] = op.holds (i.atomize t) (j.atomize t) := by
  simp [Comparison.compare]

-- Whatever the two values hold, comparing them is comparing them turned around with the mirrored
-- comparison. Of two single items `!=` denies `=`, and `<` denies `>=`, except that neither of these
-- holds where one of two numbers is not a number.
theorem comparison_laws (t : Tree) :
    (∀ op l r, Comparison.compare op t l r = op.mirrored.compare t r l) ∧
    (∀ i j, Comparison.notEqual.compare t [i] [j] = !Comparison.equal.compare t [i] [j]) ∧
    ∀ i j,
      (Unordered (i.atomize t) (j.atomize t) →
        Comparison.less.compare t [i] [j] = false ∧ Comparison.greaterEqual.compare t [i] [j] = false) ∧
      (¬Unordered (i.atomize t) (j.atomize t) →
        Comparison.less.compare t [i] [j] = !Comparison.greaterEqual.compare t [i] [j]) := by
  simp only [compare_single]
  refine ⟨fun op l r => compare_mirrored op t l r,?_,?_⟩
  · intro i j
    apply notEqual_holds
  · intro i j
    apply less_holds

end TreeAudit.Query
