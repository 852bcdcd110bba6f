import Mathlib.Logic.Relation
import TreeAudit.Query.Expr

-- The expressions inside an expression. Origins, steps and argument lists are looked through, so that
-- induction over expressions needs a single hypothesis: the statement for all parts.
namespace TreeAudit.Query
open Relation

def Origin.parts : Origin → List Expr
  | .value e => [e]
  | _ => []

def Expr.parts : Expr → List Expr
  | .const _ | .focus => []
  | .or l r | .and l r | .compare _ l r | .arith _ l r | .union l r => [l,r]
  | .neg e => [e]
  | .filter e predicates => e :: predicates
  | .path origin steps => origin.parts ++ steps.flatMap Step.predicates
  | .call _ args => args

namespace Expr

theorem induct_parts {motive : Expr → Prop}
    (whole : ∀ e : Expr, (∀ p ∈ e.parts, motive p) → motive e) (e : Expr) : motive e := by
  have leaf : ∀ e : Expr, e.parts = [] → motive e := by
    intro e none
    exact whole e (none ▸ fun p member => absurd member List.not_mem_nil)
  have pair : ∀ e l r : Expr, e.parts = [l,r] → motive l → motive r → motive e := by
    intro e l r two left right
    refine whole e (two ▸ fun p member => ?_)
    rcases List.mem_cons.mp member with rfl | last
    · exact left
    · exact List.mem_singleton.mp last ▸ right
  refine @Expr.rec motive (fun o => ∀ p ∈ o.parts, motive p) (fun s => ∀ p ∈ s.predicates, motive p)
    (fun es => ∀ p ∈ es, motive p) (fun steps => ∀ p ∈ steps.flatMap Step.predicates, motive p)
    (fun v => leaf _ rfl) (leaf _ rfl) (fun l r => pair _ l r rfl) (fun l r => pair _ l r rfl)
    (fun op l r => pair _ l r rfl) (fun op l r => pair _ l r rfl) ?neg (fun l r => pair _ l r rfl)
    ?filter ?path (fun f args all => whole _ all) ?document ?focus ?value (fun a t ps all => all)
    ?noExprs ?exprs ?noSteps ?steps e
  case neg =>
    intro e inner
    exact whole _ fun p member => List.mem_singleton.mp member ▸ inner
  case filter =>
    intro e predicates inner all
    refine whole _ fun p member => ?_
    rcases List.mem_cons.mp member with rfl | later
    · exact inner
    · exact all p later
  case path =>
    intro origin steps start all
    refine whole _ fun p member => ?_
    rcases List.mem_append.mp member with first | later
    · exact start p first
    · exact all p later
  case document | focus | noExprs | noSteps =>
    intro p member
    cases member
  case value =>
    intro e inner p member
    exact List.mem_singleton.mp member ▸ inner
  case exprs =>
    intro e es first rest p member
    rcases List.mem_cons.mp member with rfl | later
    · exact first
    · exact rest p later
  case steps =>
    intro s steps first rest p member
    rcases List.mem_append.mp (List.flatMap_cons ▸ member) with here | later
    · exact first p here
    · exact rest p later

theorem forall_pair {motive : Expr → Prop} {l r : Expr} (all : ∀ p ∈ [l,r], motive p) : motive l ∧ motive r := by
  obtain ⟨left,rest⟩ := List.forall_mem_cons.mp all
  exact ⟨left,List.forall_mem_singleton.mp rest⟩

-- `p` stands somewhere inside `e`, or is `e` itself.
def Within (p e : Expr) : Prop := ReflTransGen (fun q e => q ∈ e.parts) p e

-- A condition on one expression, made of an expression and all that stands inside it.
def Throughout (condition : Expr → Prop) (e : Expr) : Prop := ∀ p, p.Within e → condition p

variable {condition stronger : Expr → Prop} {e p : Expr}

theorem Throughout.here (all : e.Throughout condition) : condition e := all e .refl

theorem Throughout.within (all : e.Throughout condition) (inside : p.Within e) :
    p.Throughout condition :=
  fun q deeper => all q (deeper.trans inside)

theorem Throughout.part (all : e.Throughout condition) (member : p ∈ e.parts) :
    p.Throughout condition :=
  all.within (.single member)

theorem throughout_iff :
    e.Throughout condition ↔ condition e ∧ ∀ p ∈ e.parts, p.Throughout condition := by
  constructor
  · intro all
    exact ⟨all.here,fun p member => all.part member⟩
  · rintro ⟨here,parts⟩ q inside
    rcases ReflTransGen.cases_tail inside with rfl | ⟨p,deeper,member⟩
    · exact here
    · exact parts p member q deeper

theorem Throughout.mono (all : e.Throughout stronger) (weaker : ∀ p, stronger p → condition p) :
    e.Throughout condition :=
  fun p inside => weaker p (all p inside)

end Expr

end TreeAudit.Query
