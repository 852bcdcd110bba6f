import Mathlib.Data.List.Chain
import TreeAudit.Proofs.Tree.Shape
import TreeAudit.Tree.Builder

-- What a builder that met no problem has built stands in document order. The open nodes are a path of
-- parent links, and the innermost one is the last node or stands above it.
namespace TreeAudit

-- A tree that came out of a builder, whatever it was fed.
def Tree.Built (t : Tree) : Prop :=
  ∃ language file source steps, ((Builder.start language file source).run steps).finish = .ok t

-- What is wrong with a step after `n` opened nodes of which `d` are open.
def BuildStep.problemAt (n d : Nat) : BuildStep → Option BuildProblem
  | .openNode kind _ _ | .leaf kind _ _ => if d = 0 ∧ 0 < n then some (.secondRoot kind) else none
  | .close => if d = 0 then some .closeWithoutOpen else none
  | .token field _ => if d = 0 then some (.strayToken field) else none

theorem BuildStep.refused_iff {wrong : Prop} [Decidable wrong] {p : BuildProblem} :
    (if wrong then some p else none) = none ↔ ¬ wrong := by
  by_cases bad : wrong
  · simp [bad]
  · simp [bad]

namespace Builder
open Relation TreeAudit.Tree

def tree (b : Builder) : Tree := ⟨b.language,b.file,b.source,b.nodes⟩

structure Sound (b : Builder) : Prop where
  shape : b.tree.Preordered
  path : b.opened.IsChain fun c p => b.tree.IsParent p c
  innermost : ∀ o : Nat, b.opened.head? = some o →
    o < b.nodes.size ∧ b.tree.AtOrAbove o (b.nodes.size - 1)

variable {b : Builder} {kind text name : String} {field : Option String} {span : Span} {i p : Nat}

-- The nodes after the parent of the next node has been told of it.
def expecting (b : Builder) : Array Node :=
  match b.opened.head? with
  | some p => b.nodes.modify p fun n => { n with children := n.children ++ [b.nodes.size] }
  | none => b.nodes

theorem expecting_at (i : Nat) : b.expecting[i]? = b.nodes[i]?.map fun n =>
    if b.opened.head? = some i then { n with children := n.children ++ [b.nodes.size] } else n := by
  unfold expecting
  cases b.opened.head? with
  | none => simp
  | some p =>
    by_cases same : p = i
    · simp [Array.getElem?_modify,same]
    · simp [Array.getElem?_modify,same]

theorem expecting_size : b.expecting.size = b.nodes.size := by
  unfold expecting
  split <;> simp

theorem openNode_opened : (b.openNode kind field span).opened = b.nodes.size :: b.opened := by
  unfold openNode
  dsimp only
  split <;> rfl

theorem openNode_nodes : (b.openNode kind field span).nodes = b.expecting.push
    { kind, name := structuralName kind, field, span, parent := b.opened.head?, children := [],
      tokens := [] } := by
  unfold openNode expecting
  cases b.opened.head? with
  | none => dsimp only; split <;> rfl
  | some p => rfl

theorem openNode_size : (b.openNode kind field span).nodes.size = b.nodes.size + 1 := by
  rw [openNode_nodes,Array.size_push,expecting_size]

theorem openNode_parent : (b.openNode kind field span).tree.parent i =
    if i = b.nodes.size then b.opened.head? else b.tree.parent i := by
  unfold Tree.parent Tree.node tree
  rw [openNode_nodes,Array.getD_eq_getD_getElem?,Array.getD_eq_getD_getElem?,Array.getElem?_push,
    expecting_size,expecting_at]
  by_cases new : i = b.nodes.size
  · simp [new]
  · simp only [new,if_false]
    cases b.nodes[i]? with
    | none => rfl
    | some n =>
      simp only [Option.map_some,Option.getD_some]
      split <;> rfl

theorem openNode_children : (b.openNode kind field span).tree.children i =
    if i = b.nodes.size then []
    else if b.opened.head? = some i ∧ i < b.nodes.size then b.tree.children i ++ [b.nodes.size]
    else b.tree.children i := by
  unfold Tree.children Tree.node tree
  rw [openNode_nodes,Array.getD_eq_getD_getElem?,Array.getD_eq_getD_getElem?,Array.getElem?_push,
    expecting_size,expecting_at]
  by_cases new : i = b.nodes.size
  · simp [new]
  · simp only [new,if_false]
    by_cases inside : i < b.nodes.size
    · simp only [inside,and_true,Array.getElem?_eq_getElem,Option.map_some,Option.getD_some]
      split <;> rfl
    · simp [inside]

-- The first problem stays, whatever else goes wrong.
theorem report_problem (p : BuildProblem) : (b.report p).problem = b.problem.or (some p) := by
  rw [report]
  cases b.problem with
  | none => rfl
  | some q => rfl

theorem openNode_reports :
    (b.openNode kind field span).problem = b.problem.or
      (if b.opened.length = 0 ∧ 0 < b.nodes.size then some (.secondRoot kind) else none) := by
  rw [openNode]
  cases path : b.opened with
  | nil =>
    by_cases more : 0 < b.nodes.size
    · simpa [more] using report_problem _
    · simp [more]
  | cons o outer => simp

theorem openNode_problem (fine : (b.openNode kind field span).problem = none) :
    b.problem = none ∧ (b.opened.head? = none → b.nodes.size = 0) := by
  rw [openNode_reports,Option.or_eq_none_iff,BuildStep.refused_iff] at fine
  obtain ⟨before,allowed⟩ := fine
  refine ⟨before,?_⟩
  intro outer
  rw [List.head?_eq_none_iff.mp outer] at allowed
  simpa using allowed

theorem start_sound (language file source : String) : (start language file source).Sound := by
  refine ⟨⟨rfl,?_,?_⟩,.nil,?_⟩
  · intro n positive inside
    exact absurd inside (Nat.not_lt_zero n)
  · intro p inside
    exact absurd inside (Nat.not_lt_zero p)
  · intro o innermost
    cases innermost

-- Links among the old nodes are links after opening as well.
theorem openNode_extends : b.tree.IsParent p i → (b.openNode kind field span).tree.IsParent p i := by
  intro link
  have inside : i < b.nodes.size := parent_inside link
  rw [IsParent,openNode_parent,if_neg (Nat.ne_of_lt inside)]
  exact link

theorem openNode_preordered (sound : b.Sound) (single : b.opened.head? = none → b.nodes.size = 0) :
    (b.openNode kind field span).tree.Preordered := by
  have count : (b.openNode kind field span).tree.size = b.nodes.size + 1 := openNode_size
  refine ⟨?_,?_,?_⟩
  · rw [openNode_parent]
    split
    · rename_i first
      cases outer : b.opened.head? with
      | none => rfl
      | some o =>
        have bound := (sound.innermost o outer).1
        rw [← first] at bound
        exact absurd bound (Nat.not_lt_zero o)
    · exact sound.shape.top
  · intro n positive inside
    rw [count] at inside
    by_cases new : n = b.nodes.size
    · cases outer : b.opened.head? with
      | none => exact absurd (single outer) (by omega)
      | some o =>
        refine ⟨o,by rw [openNode_parent,if_pos new,outer],?_⟩
        have chain := (sound.innermost o outer).2
        rw [new]
        exact ReflTransGen.mono (fun _ _ => openNode_extends) _ _ chain
    · have older : n < b.tree.size := Nat.lt_of_le_of_ne (Nat.le_of_lt_succ inside) new
      obtain ⟨p,link,chain⟩ := sound.shape.linked n positive older
      exact ⟨p,openNode_extends link,ReflTransGen.mono (fun _ _ => openNode_extends) _ _ chain⟩
  · intro p inside
    rw [count] at inside
    have among : (List.range b.nodes.size).filter ((b.openNode kind field span).tree.isChild p) =
        (List.range b.nodes.size).filter (b.tree.isChild p) := by
      apply List.filter_congr
      intro c member
      rw [isChild,openNode_parent,if_neg (Nat.ne_of_lt (List.mem_range.mp member)),isChild]
    have last : (b.openNode kind field span).tree.isChild p b.nodes.size =
        decide (b.opened.head? = some p) := by
      rw [isChild,openNode_parent,if_pos rfl]
    rw [count,List.range_succ,List.filter_append,among,openNode_children,List.filter_singleton,last]
    by_cases new : p = b.nodes.size
    · have childless : (List.range b.nodes.size).filter (b.tree.isChild p) = [] := by
        rw [List.filter_eq_nil_iff]
        intro c member link
        have small := sound.shape.parent_lt (isChild_iff.mp link)
        have bound := List.mem_range.mp member
        omega
      have unopened : b.opened.head? ≠ some p := by
        intro outer
        exact Nat.ne_of_lt (sound.innermost p outer).1 new
      rw [if_pos new,childless,decide_eq_false unopened]
      rfl
    · have older : p < b.tree.size := Nat.lt_of_le_of_ne (Nat.le_of_lt_succ inside) new
      have same : p < b.nodes.size := older
      rw [if_neg new,sound.shape.listed p older]
      by_cases outer : b.opened.head? = some p
      · rw [if_pos ⟨outer,same⟩,decide_eq_true outer]
        rfl
      · rw [if_neg (fun both => outer both.1),decide_eq_false outer]
        exact (List.append_nil _).symm

theorem openNode_sound (sound : b.Sound) (single : b.opened.head? = none → b.nodes.size = 0) :
    (b.openNode kind field span).Sound := by
  refine ⟨openNode_preordered sound single,?_,?_⟩
  · rw [openNode_opened]
    have outer : b.opened.IsChain fun c p => (b.openNode kind field span).tree.IsParent p c :=
      sound.path.imp fun _ _ => openNode_extends
    cases path : b.opened with
    | nil => exact .singleton _
    | cons o rest =>
      refine .cons_cons ?_ (path ▸ outer)
      rw [IsParent,openNode_parent,if_pos rfl,path]
      rfl
  · intro o innermost
    rw [openNode_opened] at innermost
    cases innermost
    rw [openNode_size]
    exact ⟨Nat.lt_succ_self _,.refl⟩

theorem close_sound (sound : b.Sound) : b.close.Sound := by
  unfold close
  split
  · rename_i inner outer path
    have chain := sound.path
    rw [path] at chain
    refine ⟨sound.shape,chain.tail,?_⟩
    intro o next
    cases outer with
    | nil => cases next
    | cons p rest =>
      cases next
      cases chain with
      | cons_cons link _ =>
        obtain ⟨bound,above⟩ := sound.innermost inner (by rw [path]; rfl)
        have small := sound.shape.parent_lt link
        exact ⟨Nat.lt_trans small bound,above.head link⟩
  · exact ⟨sound.shape,sound.path,sound.innermost⟩

theorem token_links (i : Nat) : (b.token name text).tree.parent i = b.tree.parent i ∧
    (b.token name text).tree.children i = b.tree.children i := by
  unfold token
  split
  · rename_i o _ _
    simp only [Tree.parent,Tree.children,Tree.node,tree,Array.getD_eq_getD_getElem?,
      Array.getElem?_modify]
    cases b.nodes[i]? with
    | none => simp
    | some n => by_cases same : o = i <;> simp [same]
  · exact ⟨rfl,rfl⟩

theorem token_size : (b.token name text).nodes.size = b.nodes.size := by
  unfold token
  split <;> simp [report]

theorem token_opened : (b.token name text).opened = b.opened := by
  unfold token
  split <;> rfl

-- A token changes no link.
theorem token_sound (sound : b.Sound) : (b.token name text).Sound := by
  have same : (b.token name text).tree.IsParent = b.tree.IsParent := by
    funext p c
    rw [IsParent,(token_links c).1,IsParent]
  have chains : (b.token name text).tree.AtOrAbove = b.tree.AtOrAbove := by
    funext a n
    rw [AtOrAbove,same,AtOrAbove]
  have count : (b.token name text).tree.size = b.tree.size := token_size
  refine ⟨⟨?_,?_,?_⟩,?_,?_⟩
  · rw [(token_links _).1]
    exact sound.shape.top
  · intro n positive inside
    rw [count] at inside
    rw [(token_links n).1,chains]
    exact sound.shape.linked n positive inside
  · intro p inside
    rw [count] at inside
    rw [(token_links p).2,count,sound.shape.listed p inside]
    apply List.filter_congr
    intro c _
    rw [isChild,isChild,(token_links c).1]
  · rw [token_opened,same]
    exact sound.path
  · rw [token_opened,token_size,chains]
    exact sound.innermost

theorem step_reports (b : Builder) (s : BuildStep) :
    (b.step s).problem = b.problem.or (s.problemAt b.nodes.size b.opened.length) := by
  cases s with
  | openNode kind field span => exact openNode_reports
  | leaf kind field span =>
    rw [step,leaf,close,openNode_opened]
    exact (openNode_reports : (b.openNode kind field span).problem = _)
  | close =>
    rw [step,close]
    cases path : b.opened with
    | nil => exact report_problem _
    | cons o outer => exact (Option.or_none).symm
  | token field text =>
    rw [step,token]
    cases path : b.opened with
    | nil => exact report_problem _
    | cons o outer => exact (Option.or_none).symm

theorem step_problem (s : BuildStep) (fine : (b.step s).problem = none) : b.problem = none := by
  rw [step_reports,Option.or_eq_none_iff] at fine
  exact fine.1

theorem step_sound (sound : b.Sound) (s : BuildStep) (fine : (b.step s).problem = none) :
    (b.step s).Sound := by
  cases s with
  | openNode kind field span => exact openNode_sound sound (openNode_problem fine).2
  | leaf kind field span =>
    simp only [step,leaf,close,openNode_opened] at fine
    exact close_sound (openNode_sound sound (openNode_problem fine).2)
  | close => exact close_sound sound
  | token field text => exact token_sound sound

theorem run_sound (sound : b.Sound) (steps : List BuildStep) (fine : (b.run steps).problem = none) :
    (b.run steps).Sound := by
  induction steps using List.reverseRecOn with
  | nil => exact sound
  | append_singleton steps s ih =>
    simp only [run,List.foldl_append,List.foldl_cons,List.foldl_nil] at fine ⊢
    exact step_sound (ih (step_problem s fine)) s fine

theorem finish_ok (finished : b.finish = .ok t) :
    b.problem = none ∧ t = b.tree ∧ 0 < b.nodes.size ∧ b.opened = [] := by
  unfold finish at finished
  split at finished
  · cases finished
  · rename_i fine
    split at finished
    · cases finished
    · rename_i nonempty
      split at finished
      · rename_i closed
        cases finished
        refine ⟨fine,rfl,?_,List.isEmpty_iff.mp closed⟩
        simpa [Nat.pos_iff_ne_zero] using nonempty
      · cases finished

theorem finish_complete (fine : b.problem = none) (nonempty : b.nodes.isEmpty = false)
    (closed : b.opened.isEmpty = true) : b.finish = .ok b.tree := by
  rw [finish,fine]
  dsimp only
  rw [nonempty,if_neg Bool.false_ne_true,if_pos closed]
  rfl

end Builder

theorem Tree.Built.wellFormed {t : Tree} (built : t.Built) : t.WellFormed := by
  obtain ⟨language,file,source,steps,finished⟩ := built
  obtain ⟨fine,rfl,rooted,_⟩ := Builder.finish_ok finished
  exact ⟨(Builder.run_sound (Builder.start_sound language file source) steps fine).shape,rooted⟩

-- A class of two methods, the first with a body, on a single line.
def sampleSteps : List BuildStep :=
  let place := fun start stop : Nat => (⟨start,stop,1,start + 1,1,stop + 1⟩ : Span)
  [.openNode "class_declaration" none (place 0 21),
    .openNode "method_declaration" (some "body") (place 10 16),
    .leaf "block" (some "body") (place 14 16), .close,
    .leaf "method_declaration" (some "body") (place 17 20), .close]

def sample : Tree := ((Builder.start "java" "A.java" "class A { m() {} n() }").run sampleSteps).tree

theorem sample_built : sample.Built := ⟨_,_,_,sampleSteps,by rfl⟩

end TreeAudit
