import TreeAudit.Proofs.Rule.Decoding
import TreeAudit.Rule.Set

-- The entries of a rule set. Each value has an entry at its place, and only rules that were defined take
-- their ids: a value is defined as a rule if it is written as one whose id no defined rule before it has.
namespace TreeAudit.RuleSet

section Entries
variable {taken also : List String} {index : Nat} {raw : List Yaml.Value} {v w : Yaml.Value}
  {d other : RuleDefinition} {entry : RuleEntry} {i j : Nat} {id : String}

def RuleEntry.takes (e : RuleEntry) : List String := e.definition?.toList.map (·.id)

theorem entriesFrom_cons (taken : List String) (index : Nat) (v : Yaml.Value) (raw : List Yaml.Value) :
    entriesFrom taken index (v :: raw) = entryOf taken index v ::
      entriesFrom (RuleEntry.takes (entryOf taken index v) ++ taken) (index + 1) raw :=
  rfl

theorem entriesFrom_length (taken : List String) (index : Nat) (raw : List Yaml.Value) :
    (entriesFrom taken index raw).length = raw.length := by
  induction raw generalizing taken index with
  | nil => rfl
  | cons v raw ih =>
    rw [entriesFrom_cons,List.length_cons,List.length_cons,ih]

theorem entryOf_defined : entryOf taken index v = .defined d ↔
    RuleDefinition.ofValue v = .ok d ∧ d.id ∉ taken := by
  unfold entryOf
  cases RuleDefinition.ofValue v with
  | error problem => simp
  | ok a =>
    dsimp only
    split
    · rename_i among
      rw [List.contains_iff_mem] at among
      constructor
      · intro none
        cases none
      · rintro ⟨same,fresh⟩
        cases same
        exact absurd among fresh
    · rename_i fresh
      rw [List.contains_iff_mem] at fresh
      constructor
      · intro same
        cases same
        exact ⟨rfl,fresh⟩
      · rintro ⟨same,_⟩
        cases same
        rfl

theorem mem_takes : id ∈ RuleEntry.takes entry ↔ ∃ d, entry = .defined d ∧ d.id = id := by
  cases entry with
  | defined d => simp [RuleEntry.takes,RuleEntry.definition?,eq_comm]
  | rejected id problem => simp [RuleEntry.takes,RuleEntry.definition?]

-- The entry at a place, by what is defined before it.
theorem entriesFrom_defined (stands : raw[i]? = some v) :
    (entriesFrom taken index raw)[i]? = some (.defined d) ↔
      RuleDefinition.ofValue v = .ok d ∧ d.id ∉ taken ∧
        ∀ j < i, ∀ other, (entriesFrom taken index raw)[j]? = some (.defined other) → other.id ≠ d.id := by
  induction raw generalizing taken index i with
  | nil => cases stands
  | cons u raw ih =>
    rw [entriesFrom_cons]
    cases i with
    | zero =>
      cases stands
      rw [List.getElem?_cons_zero,Option.some_inj,entryOf_defined]
      exact and_congr_right fun _ => ⟨fun fresh => ⟨fresh,nofun⟩,fun fresh => fresh.1⟩
    | succ i =>
      rw [List.getElem?_cons_succ,ih stands]
      refine and_congr_right fun _ => ?_
      rw [List.mem_append,mem_takes,not_or]
      constructor
      · rintro ⟨⟨first,fresh⟩,rest⟩
        refine ⟨fresh,fun j before other there => ?_⟩
        cases j with
        | zero => exact fun same => first ⟨other,Option.some.inj there,same⟩
        | succ j => exact rest j (Nat.lt_of_succ_lt_succ before) other there
      · rintro ⟨fresh,all⟩
        refine ⟨⟨?_,fresh⟩,fun j before other there => all (j + 1) (Nat.succ_lt_succ before) other there⟩
        rintro ⟨other,defined,same⟩
        exact all 0 (Nat.succ_pos i) other (congrArg some defined) same

-- Whether one id is taken matters only for the entries that have it.
theorem entryOf_forgets {x : String} (agree : ∀ n, n ≠ x → (n ∈ taken ↔ n ∈ also))
    (apart : (entryOf taken index v).id ≠ x) : entryOf also index v = entryOf taken index v := by
  unfold entryOf at apart ⊢
  cases read : RuleDefinition.ofValue v with
  | error problem => rfl
  | ok d =>
    rw [read] at apart
    have same : also.contains d.id = taken.contains d.id := by
      rw [Bool.eq_iff_iff,List.contains_iff_mem,List.contains_iff_mem]
      refine (agree d.id ?_).symm
      dsimp only at apart
      split at apart
      · exact apart
      · exact apart
    dsimp only
    rw [same]

theorem takes_agree {x : String} (agree : ∀ n, n ≠ x → (n ∈ taken ↔ n ∈ also)) (n : String) (other : n ≠ x) :
    n ∈ RuleEntry.takes (entryOf taken index v) ++ taken ↔ n ∈ RuleEntry.takes (entryOf also index v) ++ also := by
  simp only [List.mem_append,mem_takes,entryOf_defined]
  refine or_congr (exists_congr fun d => and_congr_left fun same => and_congr_right fun _ => ?_) (agree n other)
  exact not_congr (agree d.id (same ▸ other))

theorem entriesFrom_forgets {x : String} (agree : ∀ n, n ≠ x → (n ∈ taken ↔ n ∈ also))
    (there : (entriesFrom taken index raw)[j]? = some entry) (apart : entry.id ≠ x) :
    (entriesFrom also index raw)[j]? = some entry := by
  induction raw generalizing taken also index j with
  | nil => exact there
  | cons v raw ih =>
    rw [entriesFrom_cons] at there ⊢
    cases j with
    | zero =>
      cases there
      exact congrArg some (entryOf_forgets agree apart)
    | succ j => exact ih (takes_agree agree) there

-- One value is put in the place of another and is no rule. Only entries with the id that was there before
-- can change.
theorem entriesFrom_set (bad : ∀ d, RuleDefinition.ofValue w ≠ .ok d) {old : RuleEntry}
    (before : (entriesFrom taken index raw)[i]? = some old) (elsewhere : j ≠ i)
    (there : (entriesFrom taken index raw)[j]? = some entry) (apart : entry.id ≠ old.id) :
    (entriesFrom taken index (raw.set i w))[j]? = some entry := by
  induction raw generalizing taken index i j with
  | nil => cases there
  | cons v raw ih =>
    rw [entriesFrom_cons] at before there
    cases i with
    | zero =>
      cases before
      rw [List.set_cons_zero,entriesFrom_cons]
      cases j with
      | zero => exact absurd rfl elsewhere
      | succ j =>
        refine entriesFrom_forgets (fun n other => ?_) there apart
        have none : n ∉ RuleEntry.takes (entryOf taken index w) := by
          intro member
          obtain ⟨d,defined,_⟩ := mem_takes.mp member
          exact bad d (entryOf_defined.mp defined).1
        rw [List.mem_append,List.mem_append,or_iff_right none,or_iff_right]
        intro member
        obtain ⟨d,defined,same⟩ := mem_takes.mp member
        rw [defined] at other
        exact other same.symm
    | succ i =>
      rw [List.set_cons_succ,entriesFrom_cons]
      cases j with
      | zero => exact there
      | succ j => exact ih before (fun same => elsewhere (congrArg Nat.succ same)) there

end Entries

end TreeAudit.RuleSet
