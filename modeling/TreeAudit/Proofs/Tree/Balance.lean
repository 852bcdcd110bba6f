import Mathlib.Data.List.Nodup
import TreeAudit.Proofs.Tree.Building
import TreeAudit.Proofs.Tree.Preorder

-- Which sequences of building steps make a tree. How many nodes have been opened and how many are open
-- is counted from the steps alone; what the builder answers is decided by these counts.
namespace TreeAudit

namespace BuildStep

-- The kind of the node that a step opens.
def opens? : BuildStep → Option String
  | .openNode kind _ _ | .leaf kind _ _ => some kind
  | .close | .token _ _ => none

def depthFrom (d : Nat) : BuildStep → Nat
  | .openNode _ _ _ => d + 1
  | .close => d - 1
  | .leaf _ _ _ | .token _ _ => d

def depth (steps : List BuildStep) : Nat := steps.foldl depthFrom 0

def openings (steps : List BuildStep) : Nat := steps.countP (·.opens?.isSome)

def problem? (before : List BuildStep) (s : BuildStep) : Option BuildProblem :=
  s.problemAt (openings before) (depth before)

-- `s` is one of the steps, and `before` is what goes before it.
def Comes (steps before : List BuildStep) (s : BuildStep) : Prop := before ++ [s] <+: steps

def Fit (steps : List BuildStep) : Prop := ∀ before s, Comes steps before s → problem? before s = none

structure Balanced (steps : List BuildStep) : Prop where
  rooted : 0 < openings steps
  closes : ∀ before, Comes steps before .close → 0 < depth before
  tokens : ∀ before field text, Comes steps before (.token field text) → 0 < depth before
  single : ∀ before s kind, Comes steps before s → s.opens? = some kind →
    openings before = 0 ∨ 0 < depth before
  closed : depth steps = 0

variable {steps before : List BuildStep} {s : BuildStep}

theorem fit_nil : Fit [] := by
  intro before s comes
  exact absurd (List.prefix_nil.mp comes) (List.append_ne_nil_of_right_ne_nil _ (List.cons_ne_nil _ _))

theorem fit_concat : Fit (steps ++ [s]) ↔ Fit steps ∧ problem? steps s = none := by
  constructor
  · intro fit
    constructor
    · intro before u comes
      exact fit before u (comes.trans (List.prefix_append _ _))
    · exact fit steps s (List.prefix_refl _)
  · rintro ⟨fit,last⟩ before u comes
    rcases List.prefix_concat_iff.mp comes with whole | earlier
    · obtain ⟨rfl,same⟩ := List.append_inj' whole rfl
      cases same
      exact last
    · exact fit before u earlier

theorem depth_concat : depth (steps ++ [s]) = s.depthFrom (depth steps) := by
  rw [depth,List.foldl_append]
  rfl

-- Steps that do not all fit have a first one among them that does not.
theorem fit_or_first (steps : List BuildStep) : Fit steps ∨
    ∃ before s p, Comes steps before s ∧ Fit before ∧ problem? before s = some p := by
  induction steps using List.reverseRecOn with
  | nil => exact .inl fit_nil
  | append_singleton steps s ih =>
    rcases ih with fit | ⟨before,u,p,comes,fit,wrong⟩
    · cases last : problem? steps s with
      | none => exact .inl (fit_concat.mpr ⟨fit,last⟩)
      | some p => exact .inr ⟨steps,s,p,List.prefix_refl _,fit,last⟩
    · exact .inr ⟨before,u,p,comes.trans (List.prefix_append _ _),fit,wrong⟩

theorem openings_concat : openings (steps ++ [s]) = openings steps + if s.opens?.isSome then 1 else 0 := by
  rw [openings,List.countP_append,List.countP_singleton]
  rfl

-- What can be wrong with a step, kind by kind.
theorem balanced_iff : Balanced steps ↔ 0 < openings steps ∧ Fit steps ∧ depth steps = 0 := by
  constructor
  · intro balanced
    refine ⟨balanced.rooted,?_,balanced.closed⟩
    intro before s comes
    cases s with
    | openNode kind field span =>
      have allowed := balanced.single before _ kind comes rfl
      exact refused_iff.mpr (by omega)
    | leaf kind field span =>
      have allowed := balanced.single before _ kind comes rfl
      exact refused_iff.mpr (by omega)
    | close => exact refused_iff.mpr (Nat.ne_of_gt (balanced.closes before comes))
    | token field text => exact refused_iff.mpr (Nat.ne_of_gt (balanced.tokens before field text comes))
  · rintro ⟨rooted,fit,closed⟩
    constructor
    case rooted => exact rooted
    case closed => exact closed
    case closes =>
      intro before comes
      exact Nat.pos_of_ne_zero (refused_iff.mp (fit before _ comes))
    case tokens =>
      intro before field text comes
      exact Nat.pos_of_ne_zero (refused_iff.mp (fit before _ comes))
    case single =>
      intro before s kind comes opens
      have single : ¬ (depth before = 0 ∧ 0 < openings before) := by
        cases s with
        | openNode kind field span => exact refused_iff.mp (fit before _ comes)
        | leaf kind field span => exact refused_iff.mp (fit before _ comes)
        | close => cases opens
        | token field text => cases opens
      omega

end BuildStep

-- How the nodes of a finished tree hang together: one root, every other node once among the children of
-- its parent and nowhere else, and ids in document order without gaps.
structure Tree.Arranged (t : Tree) : Prop where
  top : ∀ n : Nat, n < t.size → (t.parent n = none ↔ n = Tree.root)
  placed : ∀ n : Nat, n < t.size → n ≠ Tree.root → ∃ p, p < t.size ∧ t.parent n = some p ∧
    (t.children p).count n = 1 ∧ ∀ q : Nat, q < t.size → q ≠ p → n ∉ t.children q
  low : ∀ n p : Nat, t.parent n = some p → p < n
  ascending : ∀ p : Nat, p < t.size → (t.children p).Pairwise (· < ·)
  owned : ∀ p c : Nat, p < t.size → c ∈ t.children p → c < t.size ∧ t.parent c = some p
  gapless : ∀ n : Nat, n < t.size → ∃ e, t.Stretch n e

theorem Tree.WellFormed.arranged {t : Tree} (shape : t.WellFormed) : t.Arranged := by
  constructor
  case top =>
    intro n inside
    constructor
    · intro alone
      by_contra other
      obtain ⟨p,link,_⟩ := shape.linked n (Nat.pos_of_ne_zero other) inside
      rw [alone] at link
      cases link
    · rintro rfl
      exact shape.top
  case placed =>
    intro n inside other
    obtain ⟨p,link,_⟩ := shape.linked n (Nat.pos_of_ne_zero other) inside
    have known : p < t.size := Nat.lt_trans (shape.parent_lt link) inside
    have once : (t.children p).Nodup :=
      (children_ascending shape.toPreordered known).imp fun small => Nat.ne_of_lt small
    refine ⟨p,known,link,?_,?_⟩
    · exact List.count_eq_one_of_mem once ((mem_children shape.toPreordered known).mpr link)
    · intro q among different member
      exact different (parent_unique ((mem_children shape.toPreordered among).mp member) link)
  case low =>
    intro n p link
    exact shape.parent_lt link
  case ascending =>
    intro p inside
    exact children_ascending shape.toPreordered inside
  case owned =>
    intro p c inside member
    have link := (mem_children shape.toPreordered inside).mp member
    exact ⟨parent_inside link,link⟩
  case gapless =>
    intro n inside
    exact exists_stretch shape.toPreordered inside

namespace Builder
open BuildStep
variable {b : Builder} {s : BuildStep} {language file source : String} {steps before : List BuildStep}
  {p : BuildProblem}

theorem step_depth (b : Builder) (s : BuildStep) :
    (b.step s).opened.length = s.depthFrom b.opened.length := by
  cases s with
  | openNode kind field span => exact congrArg List.length openNode_opened
  | leaf kind field span =>
    rw [step,leaf,close,openNode_opened]
    rfl
  | close =>
    rw [step,close]
    cases path : b.opened with
    | nil => exact congrArg List.length path
    | cons o outer => rfl
  | token field text => exact congrArg List.length token_opened

theorem step_size (b : Builder) (s : BuildStep) :
    (b.step s).nodes.size = b.nodes.size + if s.opens?.isSome then 1 else 0 := by
  cases s with
  | openNode kind field span => exact openNode_size
  | leaf kind field span =>
    rw [step,leaf,close,openNode_opened]
    exact openNode_size
  | close =>
    rw [step,close]
    cases b.opened with
    | nil => rfl
    | cons o outer => rfl
  | token field text => exact token_size

theorem run_concat : b.run (steps ++ [s]) = (b.run steps).step s := by
  rw [run,List.foldl_append]
  rfl

-- The counts of the steps are those of the builder, whether or not something went wrong.
theorem run_counts (language file source : String) (steps : List BuildStep) :
    ((start language file source).run steps).opened.length = depth steps ∧
      ((start language file source).run steps).nodes.size = openings steps := by
  induction steps using List.reverseRecOn with
  | nil => exact ⟨rfl,rfl⟩
  | append_singleton steps s ih =>
    rw [run_concat,step_depth,step_size,depth_concat,openings_concat,ih.1,ih.2]
    exact ⟨rfl,rfl⟩

theorem run_reports (steps : List BuildStep) (s : BuildStep) :
    ((start language file source).run (steps ++ [s])).problem =
      ((start language file source).run steps).problem.or (problem? steps s) := by
  obtain ⟨open_,size⟩ := run_counts language file source steps
  rw [run_concat,step_reports,open_,size]
  rfl

theorem run_fit : ((start language file source).run steps).problem = none ↔ Fit steps := by
  induction steps using List.reverseRecOn with
  | nil => exact ⟨fun _ => fit_nil,fun _ => rfl⟩
  | append_singleton steps s ih => rw [run_reports,Option.or_eq_none_iff,ih,fit_concat]

theorem run_keeps (steps : List BuildStep) (known : b.problem = some p) :
    (b.run steps).problem = some p := by
  induction steps generalizing b with
  | nil => exact known
  | cons s steps ih =>
    refine ih ?_
    rw [step_reports,known]
    rfl

-- The first step that does not fit decides.
theorem run_first (fit : Fit before) (comes : Comes steps before s) (wrong : problem? before s = some p) :
    ((start language file source).run steps).problem = some p := by
  obtain ⟨after,rfl⟩ := comes
  have here : ((start language file source).run (before ++ [s])).problem = some p := by
    rw [run_reports,run_fit.mpr fit,wrong]
    rfl
  rw [run,List.foldl_append]
  exact run_keeps after here

theorem finish_fit (fine : b.problem = none) : b.finish =
    if b.nodes.size = 0 then .error .noRoot
    else if b.opened.length = 0 then .ok b.tree
    else .error (.leftOpen b.opened.length) := by
  rw [finish,fine]
  simp only [Array.isEmpty_iff_size_eq_zero,List.isEmpty_iff_length_eq_zero]
  rfl

theorem finish_tree : (∃ t, b.finish = .ok t) ↔
    b.problem = none ∧ 0 < b.nodes.size ∧ b.opened.length = 0 := by
  constructor
  · rintro ⟨t,finished⟩
    obtain ⟨fine,_,rooted,closed⟩ := finish_ok finished
    exact ⟨fine,rooted,congrArg List.length closed⟩
  · rintro ⟨fine,rooted,closed⟩
    refine ⟨b.tree,?_⟩
    rw [finish_fit fine,if_neg (Nat.ne_of_gt rooted),if_pos closed]

-- What comes of any steps at all: a tree exactly if they are balanced, and else the first thing that is
-- wrong, in the order of the steps and then of the closing checks.
theorem finish_exact (language file source : String) (steps : List BuildStep) :
    let outcome := ((start language file source).run steps).finish
    ((∃ t, outcome = .ok t) ↔ Balanced steps) ∧
    (¬ Fit steps → ∃ before s p, Comes steps before s ∧ Fit before ∧ problem? before s = some p ∧
      outcome = .error (.problem p)) ∧
    (Fit steps → openings steps = 0 → outcome = .error .noRoot ∧
      BuildFailure.noRoot.message = "tree has no root") ∧
    (Fit steps → 0 < openings steps → 0 < depth steps → outcome = .error (.leftOpen (depth steps))) ∧
    ∀ t, outcome = .ok t → t.size = openings steps ∧ t.Arranged := by
  intro outcome
  obtain ⟨open_,size⟩ := run_counts language file source steps
  refine ⟨?_,?_,?_,?_,?_⟩
  · rw [finish_tree,run_fit,open_,size,balanced_iff]
    exact and_left_comm
  · intro unfit
    obtain ⟨before,s,p,comes,fit,wrong⟩ := (fit_or_first steps).resolve_left unfit
    refine ⟨before,s,p,comes,fit,wrong,?_⟩
    change finish _ = _
    rw [finish,run_first fit comes wrong]
  · intro fit none
    refine ⟨?_,rfl⟩
    change finish _ = _
    rw [finish_fit (run_fit.mpr fit),size,if_pos none]
  · intro fit some deep
    change finish _ = _
    rw [finish_fit (run_fit.mpr fit),size,open_,if_neg (Nat.ne_of_gt some),if_neg (Nat.ne_of_gt deep)]
  · intro t finished
    have built : t.Built := ⟨language,file,source,steps,finished⟩
    obtain ⟨_,rfl,_,_⟩ := finish_ok finished
    exact ⟨size,built.wellFormed.arranged⟩

-- A second root is what goes wrong first here; the node left open does not show.
example : (match ((start "java" "A.java" "").run [.leaf "a" none default,.openNode "b" none default,
    .openNode "c" none default,.close]).finish with
    | .error failure => failure.message
    | .ok _ => "") = "second root node 'b'" := by decide +kernel

end Builder

end TreeAudit
