import Mathlib.Data.List.Perm.Basic
import TreeAudit.Proofs.Tree.Preorder

-- Iterators over a stack. A loop goes on turn by turn, without a bound, and comes to its end when the stack is empty;
-- what it has yielded by then is what recursion over the children yields, so that the bounds on its steps are never
-- felt.
namespace TreeAudit

-- A number of turns of a loop, one after the other: what they yield, and the state that they leave.
inductive Turns {S : Type u} {α : Type v} (turn : S → Option (List α × S)) : S → Nat → List α → S → Prop
  | none : Turns turn s 0 [] s
  | more : turn s = some (out,next) → Turns turn next k outs last → Turns turn s (k + 1) (out ++ outs) last

def TurnsWithin {S : Type u} {α : Type v} (turn : S → Option (List α × S)) (s : S) (bound : Nat) (outs : List α)
    (last : S) : Prop :=
  ∃ k ≤ bound, Turns turn s k outs last

-- The loop comes to its end within so many turns.
def Loops {S : Type u} {α : Type v} (turn : S → Option (List α × S)) (s : S) (bound : Nat) (outs : List α)
    (last : S) : Prop :=
  TurnsWithin turn s bound outs last ∧ turn last = none

section Turns
variable {S : Type u} {α : Type v} {turn : S → Option (List α × S)} {s middle last : S} {bound j k : Nat}
  {first second : List α}

theorem Turns.trans (one : Turns turn s k first middle) (two : Turns turn middle j second last) :
    Turns turn s (k + j) (first ++ second) last := by
  induction one with
  | none => rwa [Nat.zero_add]
  | more next _ ih =>
    rw [List.append_assoc,Nat.add_right_comm]
    exact .more next (ih two)

theorem TurnsWithin.once (next : turn s = some (first,last)) : TurnsWithin turn s 1 first last := by
  have turned := Turns.more next .none
  rw [List.append_nil] at turned
  exact ⟨1,Nat.le_refl 1,turned⟩

theorem TurnsWithin.trans (one : TurnsWithin turn s j first middle) (two : TurnsWithin turn middle k second last) :
    TurnsWithin turn s (j + k) (first ++ second) last := by
  obtain ⟨i,early,turned⟩ := one
  obtain ⟨l,late,more⟩ := two
  exact ⟨i + l,Nat.add_le_add early late,turned.trans more⟩

theorem Loops.ended (last : turn s = none) : Loops turn s bound [] s := ⟨⟨0,Nat.zero_le _,.none⟩,last⟩

theorem Loops.turned (next : turn s = some (first,middle)) (rest : Loops turn middle bound second last) :
    Loops turn s (bound + 1) (first ++ second) last := by
  obtain ⟨⟨j,few,turns⟩,ended⟩ := rest
  exact ⟨⟨j + 1,Nat.succ_le_succ few,.more next turns⟩,ended⟩

-- Entries of a stack that are worked off one after the other, each within a multiple of what stands below it.
theorem TurnsWithin.each {β γ : Type} {turn : List β → Option (List α × List β)} {push : γ → β}
    {out : γ → List α} {below : γ → List γ} (times : Nat) (rest : List β) {cs : List γ}
    (one : ∀ c ∈ cs, ∀ rest, TurnsWithin turn (push c :: rest) (times * (below c).length) (out c) rest) :
    TurnsWithin turn (cs.map push ++ rest) (times * (cs.flatMap below).length) (cs.flatMap out) rest := by
  induction cs with
  | nil => exact ⟨0,Nat.zero_le _,.none⟩
  | cons c cs ih =>
    have first := one c List.mem_cons_self (cs.map push ++ rest)
    have others := ih fun d member => one d (List.mem_cons_of_mem _ member)
    rw [List.flatMap_cons,List.flatMap_cons,List.length_append,Nat.mul_add]
    exact first.trans others

end Turns

namespace Tree
variable {t : Tree} {n e hi k lo : Nat}

-- One turn of each loop. An empty stack has none.
def preTurn (t : Tree) : List NodeId → Option (List NodeId × List NodeId)
  | [] => none
  | n :: stack => some ([n],t.children n ++ stack)

def postTurn (t : Tree) : List (NodeId × Bool) → Option (List NodeId × List (NodeId × Bool))
  | [] => none
  | (n,expanded) :: stack =>
    if expanded || t.isLeaf n then some ([n],stack)
    else some ([],(t.children n).map (·,false) ++ (n,true) :: stack)

section Iterators
variable {stack : List NodeId} {marked left : List (NodeId × Bool)} {outs : List NodeId}

theorem postorder_turns (turns : Turns t.postTurn marked k outs left) (j : Nat) :
    t.postorder (k + j) marked = outs ++ t.postorder j left := by
  induction turns with
  | none => rw [Nat.zero_add,List.nil_append]
  | @more marked k _ _ _ _ next _ ih =>
    cases marked with
    | nil => cases next
    | cons entry stack =>
      obtain ⟨n,expanded⟩ := entry
      rw [postTurn] at next
      rw [Nat.add_right_comm,postorder]
      split at next
      · rename_i given
        cases next
        rw [if_pos given,ih,List.append_assoc]
        rfl
      · rename_i pushed
        cases next
        rw [if_neg pushed,ih,List.nil_append]

theorem flatMap_covers (shape : t.Preordered) (covers : t.Covers lo stack hi) :
    stack.flatMap t.descendantsOrSelf = List.range' lo (hi - lo) := by
  induction covers with
  | nil => rw [Nat.sub_self]; rfl
  | @cons n e rest hi stretch later ih =>
    have follows := stretch.1
    have bound := later.le
    have split : hi - n = e - n + (hi - e) := by omega
    have next : n + (e - n) = e := by omega
    rw [List.flatMap_cons,descendantsOrSelf_stretch shape stretch,ih,split,← List.range'_append_1,next]

theorem descendantsOrSelf_eq (shape : t.Preordered) (inside : n < t.size) :
    t.descendantsOrSelf n = n :: (t.children n).flatMap t.descendantsOrSelf := by
  obtain ⟨e,stretch⟩ := exists_stretch shape inside
  have follows := stretch.1
  have split : e - n = e - (n + 1) + 1 := by omega
  rw [descendantsOrSelf_stretch shape stretch,flatMap_covers shape (covers_children shape stretch),split,
    List.range'_succ]

theorem descendantsOrSelf_length (shape : t.Preordered) (inside : n < t.size) :
    (t.descendantsOrSelf n).length ≤ t.size := by
  obtain ⟨e,stretch⟩ := exists_stretch shape inside
  have bound := stretch.2.1
  rw [descendantsOrSelf_stretch shape stretch,List.length_range']
  omega

theorem preTurn_yields (shape : t.Preordered) (inside : n < t.size) (stack : List NodeId) :
    TurnsWithin t.preTurn (n :: stack) (1 * (t.descendantsOrSelf n).length) (t.descendantsOrSelf n) stack := by
  induction n, inside using shape.induct generalizing stack with
  | each n inside ih =>
    have here : TurnsWithin t.preTurn (n :: stack) 1 [n] (t.children n ++ stack) := .once rfl
    have below : TurnsWithin t.preTurn ((t.children n).map id ++ stack) _ _ stack :=
      .each 1 stack fun c member => ih c ((mem_children shape inside).mp member)
    rw [List.map_id] at below
    rw [descendantsOrSelf_eq shape inside,List.length_cons,Nat.mul_succ,Nat.add_comm]
    exact here.trans below

-- A leaf takes one turn; any other node takes one before its children, which marks it, and one after them.
theorem postTurn_children (shape : t.Preordered) (inside : n < t.size) (stack : List (NodeId × Bool))
    (each : ∀ c ∈ t.children n, ∀ stack, TurnsWithin t.postTurn ((c,false) :: stack)
      (2 * (t.descendantsOrSelf c).length) (t.postOrder c) stack) :
    TurnsWithin t.postTurn ((n,false) :: stack) (2 * (t.descendantsOrSelf n).length)
      ((t.children n).flatMap t.postOrder ++ [n]) stack := by
  have marked : TurnsWithin t.postTurn ((n,true) :: stack) 1 [n] stack := .once rfl
  rw [descendantsOrSelf_eq shape inside,List.length_cons]
  cases leaf : t.isLeaf n with
  | true =>
    have alone : TurnsWithin t.postTurn ((n,false) :: stack) 1 [n] stack := .once (by simp [postTurn,leaf])
    obtain ⟨k,few,turns⟩ := alone
    rw [isLeaf,List.isEmpty_iff] at leaf
    rw [leaf]
    exact ⟨k,by omega,turns⟩
  | false =>
    have opened : TurnsWithin t.postTurn ((n,false) :: stack) 1 []
        ((t.children n).map (·,false) ++ (n,true) :: stack) := .once (by simp [postTurn,leaf])
    obtain ⟨k,few,turns⟩ := (opened.trans (TurnsWithin.each 2 _ each)).trans marked
    exact ⟨k,by omega,turns⟩

theorem postTurn_yields (shape : t.Preordered) (n : Nat) (inside : n < t.size) :
    (∀ stack, TurnsWithin t.postTurn ((n,false) :: stack) (2 * (t.descendantsOrSelf n).length) (t.postOrder n)
      stack) ∧
      t.postOrder n = (t.children n).flatMap t.postOrder ++ [n] := by
  induction n, inside using shape.induct with
  | each n inside ih =>
    have whole := fun stack => postTurn_children shape inside stack fun c member =>
      (ih c ((mem_children shape inside).mp member)).1
    have same : t.postOrder n = (t.children n).flatMap t.postOrder ++ [n] := by
      obtain ⟨k,few,turns⟩ := whole []
      have bound := descendantsOrSelf_length shape inside
      have enough : 2 * t.size = k + (2 * t.size - k) := by omega
      rw [postOrder,enough,postorder_turns turns]
      cases 2 * t.size - k <;> exact List.append_nil _
    exact ⟨fun stack => same ▸ whole stack,same⟩

theorem postOrder_perm (shape : t.Preordered) (n : Nat) (inside : n < t.size) :
    (t.postOrder n).Perm (t.descendantsOrSelf n) := by
  induction n, inside using shape.induct with
  | each n inside ih =>
    rw [(postTurn_yields shape n inside).2,descendantsOrSelf_eq shape inside]
    refine (List.perm_append_singleton n _).trans (List.Perm.cons n ?_)
    exact List.Perm.flatMap_left _ fun c member => ih c ((mem_children shape inside).mp member)

end Iterators

end Tree
end TreeAudit
