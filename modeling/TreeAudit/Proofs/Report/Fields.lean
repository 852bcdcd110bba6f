import Mathlib.Data.List.Forall2
import TreeAudit.Json

-- Documents read by the names of their fields. Objects are the same if each name finds the same value in
-- both; in which order the fields stand does not matter.
namespace TreeAudit.Json

inductive Same : Json → Json → Prop
  | null : Same null null
  | boolean : Same (boolean b) (boolean b)
  | number : Same (number n) (number n)
  | string : Same (string s) (string s)
  | array : List.Forall₂ Same vs ws → Same (array vs) (array ws)
  | object : (∀ key, Option.Rel Same (fs.lookup key) (gs.lookup key)) → Same (object fs) (object gs)

-- The value to which names lead, from one object to the next.
def follow : List String → Json → Option Json
  | [], v => some v
  | key :: keys, object fs => (fs.lookup key).bind (follow keys)
  | _ :: _, _ => none

section Fields
variable {fs gs : List (String × Json)} {vs ws : List Json} {v w : Json} {key s t : String} {m n : Nat}

theorem lookup_mem (found : fs.lookup key = some v) : (key,v) ∈ fs := by
  obtain ⟨before,after,rfl,_⟩ := List.lookup_eq_some_iff.mp found
  exact List.mem_append_right before List.mem_cons_self

theorem follow_object : follow [key] (.object fs) = fs.lookup key := Option.bind_fun_some _

-- A field that may be absent.
theorem lookup_field (key other : String) (given : Option Json) :
    (Json.field? other given).lookup key = if key = other then given else none := by
  cases given with
  | none => exact (ite_self none).symm
  | some v =>
    show [(other,v)].lookup key = _
    by_cases here : key = other
    · rw [here,List.lookup_cons_self,if_pos rfl]
    · rw [List.lookup_cons,beq_false_of_ne here,if_neg here]
      rfl

theorem lookup_unless (key : String) (absent : Bool) (v : Json) :
    (if absent then [] else [(key,v)]).lookup key = if absent then none else some v := by
  cases absent with
  | true => rfl
  | false => exact List.lookup_cons_self

theorem Same.refl : (v : Json) → Same v v
  | .null => .null
  | .boolean _ => .boolean
  | .number _ => .number
  | .string _ => .string
  | .array vs => .array (List.forall₂_same.mpr fun v _ => Same.refl v)
  | .object fs => .object fun key => by
    cases found : fs.lookup key with
    | none => exact .none
    | some v =>
      have member := lookup_mem found
      exact .some (Same.refl v)
termination_by v => sizeOf v
decreasing_by
  · have smaller := List.sizeOf_lt_of_mem ‹_›
    simp only [array.sizeOf_spec]
    omega
  · have smaller := List.sizeOf_lt_of_mem member
    simp only [object.sizeOf_spec,Prod.mk.sizeOf_spec] at smaller ⊢
    omega

theorem Same.number_inj (same : Same (.number m) (.number n)) : m = n := by
  cases same
  rfl

theorem Same.string_inj (same : Same (.string s) (.string t)) : s = t := by
  cases same
  rfl

theorem Same.items (same : Same (.array vs) (.array ws)) : List.Forall₂ Same vs ws := by
  cases same
  assumption

theorem Same.lookup (same : Same (.object fs) (.object gs)) (key : String) :
    Option.Rel Same (fs.lookup key) (gs.lookup key) := by
  cases same with
  | object each => exact each key

-- The values of a field that both objects have.
theorem Same.field (same : Same (.object fs) (.object gs)) (key : String)
    (left : fs.lookup key = some v) (right : gs.lookup key = some w) : Same v w := by
  have both := same.lookup key
  rw [left,right] at both
  cases both
  assumption

end Fields

end TreeAudit.Json
