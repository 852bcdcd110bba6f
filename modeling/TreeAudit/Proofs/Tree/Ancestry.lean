import TreeAudit.Proofs.Tree.Shape

-- The upward climb. The ancestors of a node are the nodes above it, the nearest first; so the first of them
-- with some property is the one below which no other has it.
namespace TreeAudit.Tree
open Relation
variable {t : Tree} {a d m n p : Nat}

theorem ancestors_step (shape : t.Preordered) (link : t.IsParent p n) :
    t.ancestors n = p :: t.ancestors p := by
  have up : t.parent n = some p := link
  rw [ancestors,up]
  exact if_pos (shape.parent_lt link)

theorem ancestors_top (top : t.parent n = none) : t.ancestors n = [] := by
  rw [ancestors,top]

theorem not_above_top (top : t.parent n = none) : ¬ t.Above a n := by
  intro above
  obtain ⟨_,_,link⟩ := TransGen.tail'_iff.mp above
  cases top.symm.trans link

theorem mem_ancestors (shape : t.Preordered) : a ∈ t.ancestors n ↔ t.Above a n := by
  induction n using Nat.strongRecOn with
  | ind n ih =>
    cases up : t.parent n with
    | none =>
      rw [ancestors_top up]
      exact ⟨fun member => absurd member List.not_mem_nil,fun above => absurd above (not_above_top up)⟩
    | some p =>
      rw [ancestors_step shape up,List.mem_cons,ih p (shape.parent_lt up),above_iff up,AtOrAbove,
        Relation.reflTransGen_iff_eq_or_transGen,eq_comm]
      rfl

theorem ancestors_descending (shape : t.Preordered) : (t.ancestors n).Pairwise (· > ·) := by
  induction n using Nat.strongRecOn with
  | ind n ih =>
    cases up : t.parent n with
    | none =>
      rw [ancestors_top up]
      exact .nil
    | some p =>
      rw [ancestors_step shape up]
      refine .cons ?_ (ih p (shape.parent_lt up))
      intro a member
      exact Above.lt shape ((mem_ancestors shape).mp member)

theorem find_ancestor_iff (shape : t.Preordered) (wanted : Nat → Bool) :
    (t.ancestors d).find? wanted = some a ↔
      wanted a = true ∧ t.Above a d ∧ ∀ m : Nat, t.Above a m → t.Above m d → wanted m = false := by
  induction d using Nat.strongRecOn with
  | ind d ih =>
    cases up : t.parent d with
    | none =>
      rw [ancestors_top up]
      exact ⟨nofun,fun ⟨_,above,_⟩ => absurd above (not_above_top up)⟩
    | some p =>
      have link : t.IsParent p d := up
      rw [ancestors_step shape link,List.find?_cons]
      cases nearest : wanted p with
      | true =>
        constructor
        · intro found
          cases Option.some.inj found
          refine ⟨nearest,.single link,fun m later earlier => ?_⟩
          have low := AtOrAbove.le shape ((above_iff link).mp earlier)
          have high := Above.lt shape later
          omega
        · rintro ⟨_,above,between⟩
          rcases reflTransGen_iff_eq_or_transGen.mp ((above_iff link).mp above) with same | upper
          · rw [same]
          · exact absurd nearest (Bool.eq_false_iff.mp (between p upper (.single link)))
      | false =>
        refine (ih p (shape.parent_lt link)).trans (and_congr_right fun here => ?_)
        constructor
        · rintro ⟨above,between⟩
          refine ⟨above.tail link,fun m later earlier => ?_⟩
          rcases reflTransGen_iff_eq_or_transGen.mp ((above_iff link).mp earlier) with same | upper
          · exact same ▸ nearest
          · exact between m later upper
        · rintro ⟨above,between⟩
          rcases reflTransGen_iff_eq_or_transGen.mp ((above_iff link).mp above) with same | upper
          · rw [same,here] at nearest
            cases nearest
          · exact ⟨upper,fun m later earlier => between m later (earlier.tail link)⟩

-- As long as some property lasts upward.
theorem mem_lasting (shape : t.Preordered) (wanted : Nat → Bool) : a ∈ (t.ancestors d).takeWhile wanted ↔
    t.Above a d ∧ ∀ m : Nat, t.AtOrAbove a m → t.Above m d → wanted m = true := by
  induction d using Nat.strongRecOn with
  | ind d ih =>
    cases up : t.parent d with
    | none =>
      rw [ancestors_top up]
      exact ⟨nofun,fun ⟨above,_⟩ => absurd above (not_above_top up)⟩
    | some p =>
      have link : t.IsParent p d := up
      rw [ancestors_step shape link]
      cases nearest : wanted p with
      | false =>
        rw [List.takeWhile_cons_of_neg (by simp [nearest])]
        refine ⟨nofun,fun ⟨above,lasting⟩ => ?_⟩
        have here := lasting p ((above_iff link).mp above) (.single link)
        cases nearest.symm.trans here
      | true =>
        rw [List.takeWhile_cons_of_pos nearest,List.mem_cons,ih p (shape.parent_lt link),above_iff link,AtOrAbove,
          reflTransGen_iff_eq_or_transGen,eq_comm]
        constructor
        · intro either
          rcases either with rfl | further
          · refine ⟨.inl rfl,fun m chain above => ?_⟩
            have upper := AtOrAbove.le shape ((above_iff link).mp above)
            have lower := AtOrAbove.le shape chain
            have same : m = p := Nat.le_antisymm upper lower
            exact same ▸ nearest
          · refine ⟨.inr further.1,fun m chain above => ?_⟩
            rcases reflTransGen_iff_eq_or_transGen.mp ((above_iff link).mp above) with same | upper
            · exact same ▸ nearest
            · exact further.2 m chain upper
        · rintro ⟨same | above,lasting⟩
          · exact .inl same
          · exact .inr ⟨above,fun m chain upper => lasting m chain (upper.tail link)⟩

end TreeAudit.Tree
