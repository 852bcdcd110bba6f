import TreeAudit.Text.Escape

-- Escaped texts. An escape is made of letters, digits, brackets and backslashes, and no control character
-- stands for itself.
namespace TreeAudit.Text
variable {cs : List Char}

theorem none_control (none : cs.any Unicode.isControl = false) :
    ∀ c ∈ cs, Unicode.isControl c = false := fun c member =>
  Bool.eq_false_iff.mpr (List.any_eq_false.mp none c member)

theorem digitChar_not_control : ∀ d < 16, Unicode.isControl (Nat.digitChar d) = false := by decide

theorem toDigits_not_control {base : Nat} (low : 1 < base) (high : base ≤ 16) (n : Nat) :
    ∀ c ∈ Nat.toDigits base n, Unicode.isControl c = false := by
  induction n using Nat.strongRecOn with
  | ind n ih =>
    intro c member
    rw [Nat.toDigits_eq_if low] at member
    split at member
    · rename_i small
      cases List.mem_singleton.mp member
      exact digitChar_not_control n (by omega)
    · rename_i large
      have smaller : n / base < n := Nat.div_lt_self (by omega) low
      have last : n % base < base := Nat.mod_lt n (by omega)
      rcases List.mem_append.mp member with higher | lowest
      · exact ih _ smaller c higher
      · cases List.mem_singleton.mp lowest
        exact digitChar_not_control _ (by omega)

theorem numberEscape_not_control (c : Char) :
    ∀ d ∈ numberEscape c, Unicode.isControl d = false := by
  have number := toDigits_not_control (by decide : 1 < 16) (by decide) c.toNat
  exact List.forall_mem_append.mpr
    ⟨List.forall_mem_append.mpr ⟨none_control (by decide),number⟩,none_control (by decide)⟩

theorem escapeChar_not_control (c : Char) : ∀ d ∈ escapeChar c, Unicode.isControl d = false := by
  unfold escapeChar
  split
  · exact none_control (by decide)
  split
  · exact none_control (by decide)
  split
  · exact none_control (by decide)
  split
  · exact none_control (by decide)
  split
  · exact numberEscape_not_control c
  · rename_i plain
    exact List.forall_mem_singleton.mpr (Bool.eq_false_iff.mpr plain)

theorem escapeControl_not_control (s : String) :
    ∀ c ∈ (escapeControl s).toList, Unicode.isControl c = false := by
  intro d member
  rw [escapeControl,String.toList_ofList,List.mem_flatMap] at member
  obtain ⟨c,_,escaped⟩ := member
  exact escapeChar_not_control c d escaped

end TreeAudit.Text
