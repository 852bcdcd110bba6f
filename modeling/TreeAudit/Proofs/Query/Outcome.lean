import TreeAudit.Query.Failure

-- Promises about computations that can fail: a value is as promised, or the failure is one that is
-- allowed. Promises pass through `do` blocks step by step.
namespace TreeAudit.Query

def Ends (good : α → Prop) (allowed : Failure → Prop) : Except Failure α → Prop
  | .ok a => good a
  | .error f => allowed f

variable {good also : α → Prop} {next : β → Prop} {allowed : Failure → Prop} {x : Except Failure α}
  {g : α → Except Failure β}

theorem Ends.bind (first : Ends good allowed x) (then_ : ∀ a, good a → Ends next allowed (g a)) :
    Ends next allowed (x >>= g) := by
  cases x with
  | ok a => exact then_ a first
  | error f => exact first

theorem Ends.mono (ends : Ends good allowed x) (weaker : ∀ a, good a → also a) :
    Ends also allowed x := by
  cases x with
  | ok a => exact weaker a ends
  | error f => exact ends

theorem Ends.value (ends : Ends good allowed x) (result : x = .ok a) : good a := by
  rw [result] at ends
  exact ends

theorem Ends.failure (ends : Ends good allowed x) (result : x = .error f) : allowed f := by
  rw [result] at ends
  exact ends

theorem bind_eq_ok {x : Except ε α} {g : α → Except ε β} {b : β} :
    x >>= g = .ok b ↔ ∃ a, x = .ok a ∧ g a = .ok b := by
  constructor
  · intro done
    cases x with
    | error f => cases done
    | ok a => exact ⟨a,rfl,done⟩
  · rintro ⟨a,rfl,done⟩
    exact done

theorem bind_ok {b : β} (done : x >>= g = .ok b) : ∃ a, x = .ok a ∧ g a = .ok b := bind_eq_ok.mp done

theorem map_ok {f : α → β} {b : β} (done : f <$> x = .ok b) : ∃ a, x = .ok a ∧ f a = b := by
  cases x with
  | error e => cases done
  | ok a =>
    cases done
    exact ⟨a,rfl,rfl⟩

theorem map_error {f : α → β} {e : ε} {x : Except ε α} (done : f <$> x = .error e) : x = .error e := by
  cases x with
  | error e =>
    cases done
    rfl
  | ok a => cases done

theorem mapM_cons_ok {g : α → Except Failure β} {a : α} {items : List α} {results : List β}
    (done : (a :: items).mapM g = .ok results) :
    ∃ b rest, g a = .ok b ∧ items.mapM g = .ok rest ∧ results = b :: rest := by
  rw [List.mapM_cons] at done
  obtain ⟨b,first,more⟩ := bind_ok done
  obtain ⟨rest,later,last⟩ := bind_ok more
  cases last
  exact ⟨b,rest,first,later,rfl⟩

theorem mapM_total {g : α → Except Failure β} {items : List α} (each : ∀ a ∈ items, ∃ b, g a = .ok b) :
    ∃ results, items.mapM g = .ok results := by
  induction items with
  | nil => exact ⟨[],rfl⟩
  | cons a items ih =>
    obtain ⟨⟨b,first⟩,later⟩ := List.forall_mem_cons.mp each
    obtain ⟨rest,done⟩ := ih later
    refine ⟨b :: rest,?_⟩
    rw [List.mapM_cons,first,done]
    rfl

theorem Ends.mapM {g : α → Except Failure β} (items : List α)
    (each : ∀ a ∈ items, Ends next allowed (g a)) :
    Ends (fun results => ∀ b ∈ results, next b) allowed (items.mapM g) := by
  induction items with
  | nil =>
    intro b member
    cases member
  | cons a items ih =>
    rw [List.mapM_cons]
    refine (each a List.mem_cons_self).bind fun b kept => ?_
    refine (ih fun c member => each c (List.mem_cons_of_mem _ member)).bind fun results rest => ?_
    intro c member
    rcases List.mem_cons.mp member with rfl | later
    · exact kept
    · exact rest c later

end TreeAudit.Query
