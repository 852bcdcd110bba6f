import TreeAudit.Proofs.Tree.Ancestry
import TreeAudit.Proofs.Tree.Building
import TreeAudit.Proofs.Tree.Preorder

-- Building a tree once more from what its nodes hold. While this goes on the builder holds the first nodes of the
-- tree, each with the children that are among them; the next node finds its ancestors open, and so its links come
-- out the same.
namespace TreeAudit

-- Names are those that the kinds have.
def Builder.Named (b : Builder) : Prop := ∀ (i : Nat) n, b.nodes[i]? = some n → n.name = structuralName n.kind

namespace Tree
variable {t : Tree} {language file source : String} {a i j n : Nat}

-- The steps that build a node and all below it: it is opened, its tokens and its children follow, and it is closed.
-- Children stand behind their parent, which ends the descent.
def building (t : Tree) (n : NodeId) : List BuildStep :=
  .openNode (t.kind n) (t.field n) (t.span n) :: (t.tokens n).map (fun k => .token k.field k.text) ++
    (t.children n).flatMap (fun c => if _ : n < c ∧ c < t.size then building t c else []) ++ [.close]
termination_by t.size - n
decreasing_by
  rename_i further
  exact Nat.sub_lt_sub_left (Nat.lt_trans further.1 further.2) further.1

def outlineOf (t : Tree) (n : NodeId) : Outline :=
  ⟨(t.ancestors n).length,t.kind n,t.field n,t.span n,t.tokens n⟩

-- What the nodes hold, in document order; of the links only how deep each node stands.
def outline (t : Tree) : List Outline := (t.descendantsOrSelf root).map t.outlineOf

theorem building_eq (shape : t.Preordered) (inside : n < t.size) :
    t.building n = .openNode (t.kind n) (t.field n) (t.span n) ::
      (t.tokens n).map (fun k => .token k.field k.text) ++ (t.children n).flatMap t.building ++ [.close] := by
  have children : (t.children n).flatMap (fun c => if _ : n < c ∧ c < t.size then t.building c else []) =
      (t.children n).flatMap t.building := by
    refine List.flatMap_congr fun c member => ?_
    have link := (mem_children shape inside).mp member
    exact dif_pos ⟨shape.parent_lt link,parent_inside link⟩
  rw [building,children]

-- The first nodes of a tree, each with the children that are among them.
def begun (t : Tree) (i : Nat) : Array Node :=
  (Array.range i).map fun n => { t.node n with children := (t.children n).filter (· < i) }

-- A builder that has come so far, with these nodes open.
def midway (t : Tree) (language file source : String) (i : Nat) (opened : List NodeId) : Builder :=
  ⟨language,file,source,t.begun i,opened,none⟩

theorem begun_at (i j : Nat) : (t.begun i)[j]? =
    if j < i then some { t.node j with children := (t.children j).filter (· < i) } else none := by
  by_cases before : j < i
  · simp [begun,before]
  · simp [begun,before]

theorem start_midway : Builder.start language file source = t.midway language file source 0 [] := by
  simp [Builder.start,midway,begun]

theorem begun_size (i : Nat) : (t.begun i).size = i := by simp [begun]

theorem begun_whole (shape : t.Preordered) : t.begun t.size = t.nodes := by
  apply Array.ext_getElem?
  intro j
  rw [begun_at]
  by_cases inside : j < t.size
  · have all : (t.children j).filter (· < t.size) = t.children j :=
      List.filter_eq_self.mpr fun c member =>
        decide_eq_true (parent_inside ((mem_children shape inside).mp member))
    rw [if_pos inside,all]
    have known : j < t.nodes.size := inside
    simp [children,node,known]
  · rw [if_neg inside,Array.getElem?_eq_none (Nat.le_of_not_lt inside)]

theorem filter_range_lt (wanted : Nat → Bool) (within : i ≤ n) :
    ((List.range n).filter wanted).filter (· < i) = (List.range i).filter wanted := by
  induction n with
  | zero =>
    cases Nat.le_zero.mp within
    rfl
  | succ n ih =>
    by_cases whole : i = n + 1
    · subst whole
      refine List.filter_eq_self.mpr fun c member => ?_
      exact decide_eq_true (List.mem_range.mp (List.mem_of_mem_filter member))
    · have last : ([n].filter wanted).filter (· < i) = [] := by
        refine List.filter_eq_nil_iff.mpr fun c member small => ?_
        cases List.mem_singleton.mp (List.mem_of_mem_filter member)
        have bound := of_decide_eq_true small
        omega
      rw [List.range_succ,List.filter_append,List.filter_append,last,List.append_nil,ih (by omega)]

-- The next node is a child of its parent alone.
theorem children_upto (shape : t.Preordered) (known : j < t.size) (inside : i < t.size) :
    (t.children j).filter (· < i + 1) =
      if t.parent i = some j then (t.children j).filter (· < i) ++ [i] else (t.children j).filter (· < i) := by
  rw [shape.listed j known,filter_range_lt _ inside,filter_range_lt _ (Nat.le_of_lt inside),List.range_succ,
    List.filter_append,List.filter_singleton,isChild]
  by_cases link : t.parent i = some j
  · rw [if_pos link,decide_eq_true link]
    rfl
  · rw [if_neg link,decide_eq_false link]
    exact List.append_nil _

theorem childless_before (shape : t.Preordered) (inside : i < t.size) : (t.children i).filter (· < i + 1) = [] := by
  refine List.filter_eq_nil_iff.mpr fun c member small => ?_
  have below := shape.parent_lt ((mem_children shape inside).mp member)
  have bound := of_decide_eq_true small
  omega

-- What stands above a node on the way up from it is the end of that way.
theorem lineage_suffix (shape : t.Preordered) (chain : t.AtOrAbove a n) :
    a :: t.ancestors a <:+ n :: t.ancestors n := by
  induction chain with
  | refl => exact List.suffix_refl _
  | tail _ link ih =>
    rw [ancestors_step shape link]
    exact ih.trans (List.suffix_cons _ _)

end Tree

namespace Builder
variable {b : Builder} {kind : String} {field : Option String} {span : Span} {outer : List NodeId} {i : Nat}

theorem openNode_fine (single : b.opened.head? = none → b.nodes.size = 0) :
    b.openNode kind field span =
      { b with
        nodes := b.expecting.push
          { kind, name := structuralName kind, field, span, parent := b.opened.head?, children := [],
            tokens := [] }
        opened := b.nodes.size :: b.opened } := by
  unfold openNode expecting
  cases outer : b.opened.head? with
  | none => simp [single outer]
  | some o => rfl

theorem tokens_attached (inner : b.opened = i :: outer) (ks : List Token) :
    ks.foldl (fun b k => b.token k.field k.text) b =
      { b with nodes := b.nodes.modify i fun n => { n with tokens := n.tokens ++ ks } } := by
  induction ks generalizing b with
  | nil =>
    have same : b.nodes.modify i (fun n => { n with tokens := n.tokens ++ [] }) = b.nodes := by
      apply Array.ext_getElem?
      intro j
      by_cases here : i = j <;> simp [Array.getElem?_modify,here]
    rw [List.foldl_nil,same]
  | cons k ks ih =>
    have one : b.token k.field k.text =
        { b with nodes := b.nodes.modify i fun n => { n with tokens := n.tokens ++ [k] } } := by
      rw [token,inner]
    have still : (b.token k.field k.text).opened = i :: outer := token_opened.trans inner
    rw [List.foldl_cons,ih still,one]
    refine congrArg (fun nodes => { b with nodes := nodes }) (Array.ext_getElem? fun j => ?_)
    by_cases here : i = j
    · simp [Array.getElem?_modify,here,Function.comp_def]
    · simp [Array.getElem?_modify,here]

theorem start_named (language file source : String) : (start language file source).Named := by
  intro i n found
  cases found

theorem openNode_named (named : b.Named) : (b.openNode kind field span).Named := by
  intro i n found
  rw [openNode_nodes,Array.getElem?_push] at found
  split at found
  · cases found
    rfl
  · rw [expecting_at] at found
    obtain ⟨old,at_,same⟩ := Option.map_eq_some_iff.mp found
    have kept := named i old at_
    split at same
    · cases same
      exact kept
    · cases same
      exact kept

theorem close_nodes : b.close.nodes = b.nodes := by
  unfold close
  split <;> rfl

theorem token_named {text name : String} (named : b.Named) : (b.token name text).Named := by
  unfold token
  split
  · intro i n found
    rw [Array.getElem?_modify] at found
    split at found
    · obtain ⟨old,at_,rfl⟩ := Option.map_eq_some_iff.mp found
      exact named i old at_
    · exact named i n found
  · exact named

theorem step_named (named : b.Named) (s : BuildStep) : (b.step s).Named := by
  cases s with
  | openNode kind field span => exact openNode_named named
  | leaf kind field span =>
    intro i n found
    rw [step,leaf,close_nodes] at found
    exact openNode_named named i n found
  | close =>
    intro i n found
    rw [step,close_nodes] at found
    exact named i n found
  | token field text => exact token_named named

theorem run_named (named : b.Named) (steps : List BuildStep) : (b.run steps).Named := by
  induction steps generalizing b with
  | nil => exact named
  | cons s steps ih => exact ih (step_named named s)

end Builder

namespace Tree
open Builder
variable {t : Tree} {language file source : String} {opened : List NodeId} {hi i lo n : Nat} {stack : List Nat}

theorem Built.named (built : t.Built) (n : NodeId) : t.name n = structuralName (t.kind n) := by
  obtain ⟨language,file,source,steps,finished⟩ := built
  obtain ⟨_,rfl,_,_⟩ := finish_ok finished
  have named := run_named (start_named language file source) steps
  generalize (start language file source).run steps = b at named
  have record : b.tree.node n = b.nodes[n]?.getD default := Array.getD_eq_getD_getElem? ..
  rw [name,kind,record]
  cases found : b.nodes[n]? with
  | none => rfl
  | some m => exact named n m found

theorem begun_next (shape : t.Preordered) (named : t.name i = structuralName (t.kind i)) (inside : i < t.size)
    (outer : opened.head? = t.parent i) :
    ((t.midway language file source i opened).expecting.push
      { kind := t.kind i, name := structuralName (t.kind i), field := t.field i, span := t.span i,
        parent := opened.head?, children := [], tokens := [] }).modify i
          (fun n => { n with tokens := n.tokens ++ t.tokens i }) = t.begun (i + 1) := by
  have size : (t.midway language file source i opened).nodes.size = i := begun_size i
  apply Array.ext_getElem?
  intro j
  have old : (t.midway language file source i opened).nodes[j]? = _ := begun_at i j
  have innermost : (t.midway language file source i opened).opened.head? = t.parent i := outer
  rw [Array.getElem?_modify,Array.getElem?_push,expecting_size,expecting_at,size,begun_at,old,innermost,outer]
  rcases Nat.lt_trichotomy j i with before | rfl | behind
  · have known : j < t.size := Nat.lt_trans before inside
    rw [if_neg (Nat.ne_of_gt before),if_neg (Nat.ne_of_lt before),if_pos before,if_pos (Nat.lt_succ_of_lt before),
      children_upto shape known inside]
    by_cases link : t.parent i = some j
    · simp [link]
    · simp [link]
  · rw [if_pos rfl,if_pos rfl,if_pos (Nat.lt_succ_self j),childless_before shape inside,← named]
    rfl
  · rw [if_neg (Nat.ne_of_lt behind),if_neg (Nat.ne_of_gt behind),if_neg (Nat.lt_asymm behind),
      if_neg (Nat.not_lt_of_le behind)]
    rfl

-- Opening the next node and attaching its tokens.
theorem midway_next (shape : t.Preordered) (named : t.name i = structuralName (t.kind i)) (inside : i < t.size)
    (outer : opened.head? = t.parent i) :
    (t.tokens i).foldl (fun b k => b.token k.field k.text)
        ((t.midway language file source i opened).openNode (t.kind i) (t.field i) (t.span i)) =
      t.midway language file source (i + 1) (i :: opened) := by
  have size : (t.midway language file source i opened).nodes.size = i := begun_size i
  have single : opened.head? = none → (t.midway language file source i opened).nodes.size = 0 := by
    intro alone
    by_contra more
    rw [size] at more
    obtain ⟨p,link,_⟩ := shape.linked i (Nat.pos_of_ne_zero more) inside
    cases alone.symm.trans (outer.trans link)
  have first : ((t.midway language file source i opened).openNode (t.kind i) (t.field i) (t.span i)).opened =
      _ :: opened := openNode_opened
  rw [size] at first
  rw [tokens_attached first,openNode_fine single]
  exact congrArg₂ (fun nodes n => (⟨language,file,source,nodes,n :: opened,none⟩ : Builder))
    (begun_next shape named inside outer) size

theorem run_sequence (b : Builder) (first second : List BuildStep) :
    b.run (first ++ second) = (b.run first).run second := List.foldl_append

theorem run_opening (shape : t.Preordered) (named : t.name i = structuralName (t.kind i)) (inside : i < t.size)
    (outer : opened.head? = t.parent i) :
    (t.midway language file source i opened).run
        (.openNode (t.kind i) (t.field i) (t.span i) :: (t.tokens i).map fun k => .token k.field k.text) =
      t.midway language file source (i + 1) (i :: opened) := by
  rw [← midway_next shape named inside outer,run,List.foldl_cons,List.foldl_map]
  rfl

theorem run_covers (covers : t.Covers lo stack hi) (each : ∀ c ∈ stack, ∀ e, t.Stretch c e →
      (t.midway language file source c opened).run (t.building c) = t.midway language file source e opened) :
    (t.midway language file source lo opened).run (stack.flatMap t.building) =
      t.midway language file source hi opened := by
  induction covers with
  | nil => rfl
  | cons stretch _ ih =>
    rw [List.flatMap_cons,run_sequence,each _ List.mem_cons_self _ stretch]
    exact ih fun c member => each c (List.mem_cons_of_mem _ member)

-- By induction from the children up: the steps of a node bring the builder to the end of its stretch.
theorem run_building (shape : t.Preordered) (named : ∀ n, t.name n = structuralName (t.kind n)) (n : Nat)
    (inside : n < t.size) : ∀ opened e, t.Stretch n e → opened.head? = t.parent n →
      (t.midway language file source n opened).run (t.building n) = t.midway language file source e opened := by
  induction n, inside using shape.induct with
  | each n inside ih =>
    intro opened e stretch outer
    have below : (t.midway language file source (n + 1) (n :: opened)).run ((t.children n).flatMap t.building) =
        t.midway language file source e (n :: opened) :=
      run_covers (covers_children shape stretch) fun c member e stretch =>
        ih c ((mem_children shape inside).mp member) _ e stretch ((mem_children shape inside).mp member).symm
    rw [building_eq shape inside,run_sequence,run_sequence]
    rw [run_opening shape (named n) inside outer,below]
    rfl

theorem closeTo_open (added opened : List NodeId) :
    (t.midway language file source i (added ++ opened)).closeTo opened.length =
      t.midway language file source i opened := by
  have count : (added ++ opened).length - opened.length = added.length := by
    rw [List.length_append,Nat.add_sub_cancel]
  change Nat.repeat close ((added ++ opened).length - opened.length) _ = _
  rw [count]
  induction added using List.reverseRecOn generalizing opened with
  | nil => rfl
  | append_singleton added o ih =>
    rw [List.length_append,List.append_assoc]
    change close (Nat.repeat close added.length _) = _
    rw [ih ([o] ++ opened) (by simp)]
    rfl

-- The nodes that are open once a node has been added.
def lineage (t : Tree) : Nat → List NodeId
  | 0 => []
  | i + 1 => i :: t.ancestors i

-- The next node's ancestors are open already; what is open below them is closed before it comes.
theorem ancestors_open (shape : t.Preordered) (inside : i < t.size) : t.ancestors i <:+ t.lineage i := by
  cases i with
  | zero =>
    have top : t.ancestors 0 = [] := ancestors_top shape.top
    rw [top]
    exact List.nil_suffix
  | succ i =>
    obtain ⟨p,link,chain⟩ := shape.linked (i + 1) (Nat.succ_pos i) inside
    rw [ancestors_step shape link]
    exact lineage_suffix shape chain

theorem ancestors_head (shape : t.Preordered) : (t.ancestors n).head? = t.parent n := by
  cases up : t.parent n with
  | none => rw [ancestors_top up]; rfl
  | some p => rw [ancestors_step shape up]; rfl

theorem foldl_add (shape : t.Preordered) (named : ∀ n, t.name n = structuralName (t.kind n)) (within : i ≤ t.size) :
    ((List.range i).map t.outlineOf).foldl Builder.add (start language file source) =
      t.midway language file source i (t.lineage i) := by
  induction i with
  | zero => exact start_midway
  | succ i ih =>
    obtain ⟨added,same⟩ := ancestors_open shape within
    rw [List.range_succ,List.map_append,List.foldl_append,ih (Nat.le_of_succ_le within),← same]
    change (t.tokens i).foldl _ (((t.midway language file source i (added ++ t.ancestors i)).closeTo
      (t.ancestors i).length).openNode (t.kind i) (t.field i) (t.span i)) = _
    rw [closeTo_open,midway_next shape (named i) within (ancestors_head shape)]
    rfl

theorem midway_whole (wf : t.WellFormed) :
    (t.midway language file source t.size []).finish = .ok ⟨language,file,source,t.nodes⟩ := by
  have whole := begun_whole wf.toPreordered
  have nonempty : (t.begun t.size).isEmpty = false := by
    rw [whole,Bool.eq_false_iff,ne_eq,Array.isEmpty_iff_size_eq_zero]
    exact Nat.ne_of_gt wf.rooted
  rw [finish_complete rfl nonempty rfl,← whole]
  rfl

theorem outline_range (wf : t.WellFormed) : t.outline = (List.range t.size).map t.outlineOf := by
  rw [outline,descendantsOrSelf_stretch wf.toPreordered (.root wf),List.range_eq_range']
  rfl

-- A finished tree is told by its nodes in document order, each with its kind, field, span and tokens, and either the
-- steps that open and close it or the number of nodes above it: a new builder makes the same nodes of them.
theorem replayed (built : t.Built) (language file source : String) :
    ((start language file source).run (t.building root)).finish = .ok ⟨language,file,source,t.nodes⟩ ∧
      ofOutline language file source t.outline = .ok ⟨language,file,source,t.nodes⟩ := by
  have wf := built.wellFormed
  have shape := wf.toPreordered
  constructor
  · have whole : (t.midway language file source 0 []).run (t.building root) =
        t.midway language file source t.size [] :=
      run_building shape built.named root wf.rooted [] t.size (.root wf) shape.top.symm
    rw [start_midway]
    exact (congrArg finish whole).trans (midway_whole wf)
  · have closed : (t.midway language file source t.size (t.lineage t.size ++ [])).closeTo 0 =
        t.midway language file source t.size [] := closeTo_open _ _
    rw [List.append_nil] at closed
    rw [ofOutline,outline_range wf,foldl_add shape built.named (Nat.le_refl _)]
    exact (congrArg finish closed).trans (midway_whole wf)

theorem replayed_sample : sample.Built ∧
    ((start "java" "A.java" "").run (sample.building root)).finish = .ok ⟨"java","A.java","",sample.nodes⟩ ∧
      ofOutline "java" "A.java" "" sample.outline = .ok ⟨"java","A.java","",sample.nodes⟩ :=
  ⟨sample_built,replayed sample_built "java" "A.java" ""⟩

end Tree

end TreeAudit
