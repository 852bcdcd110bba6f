import Mathlib
import TreeAudit.Query.Comparison

-- The order of double precision numbers. Turned around it is reversed, and what is not a number stands in
-- no order to anything.
namespace TreeAudit.Decimal
open Float.Model

theorem compare_swap (u v : UnpackedFloat) : v.compare u = (u.compare v).map Ordering.swap := by
  cases u with
  | notANumber => cases v <;> rfl
  | infinity s =>
    cases v with
    | infinity r => cases s <;> cases r <;> rfl
    | _ => cases s <;> rfl
  | zero s =>
    cases v with
    | infinity r => cases r <;> rfl
    | finite r => cases r <;> rfl
    | _ => rfl
  | finite s m e =>
    cases v with
    | notANumber => rfl
    | infinity r => cases s <;> cases r <;> rfl
    | zero r => cases s <;> rfl
    | finite r n k =>
      have turned : (compare k e).then (compare n m) = ((compare e k).then (compare m n)).swap := by
        rw [Ordering.swap_then,Int.compare_swap,Nat.compare_swap]
      cases s <;> cases r <;> simp [UnpackedFloat.compare,turned]

theorem compare_eq_none (u v : UnpackedFloat) :
    u.compare v = none ↔ u.isNaN = true ∨ v.isNaN = true := by
  cases u with
  | notANumber => simp [UnpackedFloat.compare,UnpackedFloat.isNaN]
  | infinity s => cases v <;> cases s <;> simp [UnpackedFloat.compare,UnpackedFloat.isNaN]
  | zero s =>
    cases v with
    | infinity r => cases r <;> simp [UnpackedFloat.compare,UnpackedFloat.isNaN]
    | finite r => cases r <;> simp [UnpackedFloat.compare,UnpackedFloat.isNaN]
    | _ => simp [UnpackedFloat.compare,UnpackedFloat.isNaN]
  | finite s m e =>
    cases v with
    | notANumber => simp [UnpackedFloat.compare,UnpackedFloat.isNaN]
    | infinity r => cases s <;> cases r <;> simp [UnpackedFloat.compare,UnpackedFloat.isNaN]
    | zero r => cases s <;> simp [UnpackedFloat.compare,UnpackedFloat.isNaN]
    | finite r => cases s <;> cases r <;> simp [UnpackedFloat.compare,UnpackedFloat.isNaN]

end TreeAudit.Decimal

namespace TreeAudit.Query
open Decimal
variable (x y : Float)

theorem decide_le : decide (x ≤ y) = (x.toModel.unpack.compare y.toModel.unpack).any (·.isLE) := by
  have le : x ≤ y ↔ (x.toModel.unpack.compare y.toModel.unpack).any (·.isLE) = true := decide_eq_true_iff
  simp [le]

-- The two comparisons of which the order is made tell the same as the one.
theorem orderNumbers_eq : orderNumbers x y = x.toModel.unpack.compare y.toModel.unpack := by
  rw [orderNumbers,decide_le,decide_le,compare_swap x.toModel.unpack]
  cases x.toModel.unpack.compare y.toModel.unpack with
  | none => rfl
  | some o => cases o <;> rfl

theorem orderNumbers_swap : orderNumbers y x = (orderNumbers x y).map Ordering.swap := by
  rw [orderNumbers_eq,orderNumbers_eq,compare_swap]

theorem orderNumbers_eq_none : orderNumbers x y = none ↔ x.isNaN = true ∨ y.isNaN = true := by
  rw [orderNumbers_eq,compare_eq_none]
  rfl

theorem orderNumbers_beq : (x == y) = (orderNumbers x y == some .eq) := by
  rw [orderNumbers_eq]
  rfl

theorem beq_swap : (y == x) = (x == y) := by
  rw [orderNumbers_beq,orderNumbers_beq,orderNumbers_swap]
  cases orderNumbers x y with
  | none => rfl
  | some o => cases o <;> rfl

end TreeAudit.Query
