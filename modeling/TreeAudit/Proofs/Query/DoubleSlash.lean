import TreeAudit.Proofs.Query.Evaluation
import TreeAudit.Proofs.Query.Reading

-- The double slash. What it stands for selects what the long form selects, also where a step without
-- predicates is taken as one step down to all descendants, and also from the document.
namespace TreeAudit.Query
open Relation

namespace Setting
variable {s : Setting} {o : Option Nat} {m id : Nat}

-- The node from which a step starts, nothing for the document. No step starts from a single value.
def standing (s : Setting) : Place → Except Failure (Option Nat)
  | .document => .ok none
  | .item (.node id) => do pure (some (← s.node id))
  | .item (.atom _) => .error (.evaluation .stepFromValue)

def reached (s : Setting) (axis : Axis) : Option Nat → List Nat
  | none => s.documentNodes axis
  | some id => s.axisNodes axis id

def passing (s : Setting) (axis : Axis) (test : NodeTest) (o : Option Nat) : List Nat :=
  (s.reached axis o).filter fun m => test.accepts (s.tree.name m)

theorem standing_node (id : Nat) : s.standing (.item (.node id)) =
    if id < s.tree.size then .ok (some id) else .error (.evaluation (.foreignNode id)) := by
  rw [standing,node]
  split
  · rfl
  · rfl

theorem candidates_eq {axis : Axis} (walks : axis ≠ .attributes) (test : NodeTest) (p : Place) :
    s.candidates axis test p = (fun o => Value.ofNodes (s.passing axis test o)) <$> s.standing p := by
  match p with
  | .document => rfl
  | .item (.atom a) => rfl
  | .item (.node id) =>
    rw [candidates,standing_node,node]
    simp only [if_neg walks]
    by_cases inside : id < s.tree.size
    · rw [if_pos inside,if_pos inside]
      rfl
    · rw [if_neg inside,if_neg inside]
      rfl

-- A descendant is a child of the node itself or of a descendant; from the document, the root is the
-- one child and its descendants come by way of it.
theorem reached_descendant (shape : s.tree.WellFormed) (known : ∀ id : Nat, o = some id → id < s.tree.size) :
    m ∈ s.reached .descendant o ↔
      (o = none ∧ m ∈ s.reached .child none) ∨
        ∃ k, k ∈ s.reached .descendantOrSelf o ∧ m ∈ s.reached .child (some k) := by
  have child : ∀ {a k : Nat}, a < s.tree.size → s.tree.AtOrAbove a k →
      (m ∈ s.reached .child (some k) ↔ s.tree.IsParent k m) := by
    intro a k inside below
    exact Tree.mem_children shape.toPreordered (Tree.AtOrAbove.inside below inside)
  cases o with
  | none =>
    have under : ∀ k : Nat, k ∈ s.reached .descendantOrSelf none ↔ s.tree.AtOrAbove Tree.root k :=
      fun k => Tree.mem_descendantsOrSelf (m := k) shape.toPreordered shape.rooted
    change m ∈ s.reached .descendantOrSelf none ↔ _
    rw [under,Tree.AtOrAbove,ReflTransGen.cases_tail_iff]
    have top : m = Tree.root ↔ (none : Option Nat) = none ∧ m ∈ s.reached .child none :=
      ⟨fun first => ⟨rfl,List.mem_singleton.mpr first⟩,fun first => List.mem_singleton.mp first.2⟩
    refine or_congr top ?_
    refine exists_congr fun k => ?_
    rw [under]
    exact and_congr_right fun below => (child shape.rooted below).symm
  | some id =>
    have inside := known id rfl
    have under : ∀ k : Nat, k ∈ s.reached .descendantOrSelf (some id) ↔ s.tree.AtOrAbove id k :=
      fun k => Tree.mem_descendantsOrSelf shape.toPreordered inside
    change m ∈ s.tree.descendants id ↔ _
    rw [Tree.mem_descendants shape.toPreordered inside,Tree.Above,TransGen.tail'_iff]
    constructor
    · rintro ⟨k,below,link⟩
      exact .inr ⟨k,(under k).mpr below,(child inside below).mpr link⟩
    · rintro (⟨none,_⟩ | ⟨k,below,link⟩)
      · cases none
      · exact ⟨k,(under k).mp below,(child inside ((under k).mp below)).mp link⟩

end Setting

variable {s : Setting} {places : List Place} {os : List (Option Nat)}

theorem mapM_functor {g : α → Except ε β} (h : β → γ) (l : List α) :
    l.mapM (fun a => h <$> g a) = List.map h <$> l.mapM g := by
  induction l with
  | nil => rfl
  | cons a l ih =>
    rw [List.mapM_cons,List.mapM_cons,ih]
    cases g a with
    | error e => rfl
    | ok b =>
      cases l.mapM g with
      | error e => rfl
      | ok bs => rfl

-- A step without predicates, along any axis but that of the attributes.
theorem bare_step {axis : Axis} (walks : axis ≠ .attributes) (test : NodeTest) (places : List Place) :
    (Step.mk axis test []).eval s places = (fun os =>
      placesAfter ((Step.mk axis test []).keepsDocument places)
        (Value.ofNodes (os.flatMap (s.passing axis test)))) <$> places.mapM s.standing := by
  have each : ∀ p, (do evalPredicates s [] (← s.candidates axis test p)) =
      (fun o => Value.ofNodes (s.passing axis test o)) <$> s.standing p := by
    intro p
    rw [Setting.candidates_eq walks]
    cases s.standing p with
    | error f => rfl
    | ok o => rfl
  rw [Step.eval,funext each,mapM_functor]
  cases places.mapM s.standing with
  | error f => rfl
  | ok os =>
    refine congrArg (fun items => Except.ok (placesAfter _ items)) ?_
    rw [Value.ofNodes,List.map_flatMap,List.flatMap]
    rfl

theorem standing_inside (stands : places.mapM s.standing = .ok os) :
    ∀ id : Nat, some id ∈ os → id < s.tree.size := by
  have each : ∀ p ∈ places, Ends (fun o => ∀ id : Nat, o = some id → id < s.tree.size) (fun _ => True)
      (s.standing p) := by
    intro p _
    match p with
    | .document =>
      intro id same
      cases same
    | .item (.atom a) => trivial
    | .item (.node id) =>
      rw [Setting.standing_node]
      split
      · rename_i inside
        exact fun other same => Option.some.inj same ▸ inside
      · trivial
  exact fun id member => (Ends.mapM places each).value stands _ member id rfl

theorem standing_document (stands : places.mapM s.standing = .ok os) :
    .document ∈ places ↔ none ∈ os := by
  induction places generalizing os with
  | nil => cases stands; simp
  | cons p places ih =>
    obtain ⟨o,later,first,rest,rfl⟩ := mapM_cons_ok stands
    have here : p = .document ↔ o = none := by
      match p with
      | .document => cases first; simp
      | .item (.atom a) => cases first
      | .item (.node id) =>
        rw [Setting.standing_node] at first
        split at first
        · cases first; simp
        · cases first
    rw [List.mem_cons,List.mem_cons,ih rest,eq_comm,here,@eq_comm _ none]

theorem standing_nodes {ids : List Nat} (inside : ∀ id ∈ ids, id < s.tree.size) :
    ((Value.ofNodes ids).map Place.item).mapM s.standing = .ok (ids.map some) := by
  induction ids with
  | nil => rfl
  | cons id ids ih =>
    obtain ⟨first,later⟩ := List.forall_mem_cons.mp inside
    have here : s.standing (.item (.node id)) = .ok (some id) := by
      rw [Setting.standing_node,if_pos first]
    have rest := ih later
    unfold Value.ofNodes at rest ⊢
    rw [List.map_cons,List.map_cons,List.mapM_cons,here,rest]
    rfl

-- After a step to nodes of the tree the next step starts from those, and from the document if it stays.
theorem standing_after {ids : List Nat} (inside : ∀ id ∈ ids, id < s.tree.size) (document : Bool) :
    (placesAfter document (Value.ofNodes ids)).mapM s.standing =
      .ok ((if document then [none] else []) ++ (documentOrder ids).map some) := by
  have nodes := standing_nodes fun id member => inside id (mem_documentOrder.mp member)
  rw [placesAfter,Value.arrange_ofNodes]
  cases document with
  | false => exact nodes
  | true =>
    change (Place.document :: (Value.ofNodes (documentOrder ids)).map Place.item).mapM s.standing = _
    rw [List.mapM_cons,nodes]
    rfl

theorem mem_passing {axis : Axis} {test : NodeTest} {m : Nat} :
    m ∈ os.flatMap (s.passing axis test) ↔
      test.accepts (s.tree.name m) = true ∧ ∃ o ∈ os, m ∈ s.reached axis o := by
  simp only [List.mem_flatMap,Setting.passing,List.mem_filter]
  constructor
  · rintro ⟨o,member,found,accepted⟩
    exact ⟨accepted,o,member,found⟩
  · rintro ⟨accepted,o,member,found⟩
    exact ⟨o,member,found,accepted⟩

theorem mem_below {k : Nat} : k ∈ os.flatMap (s.passing .descendantOrSelf .any) ↔
    ∃ o ∈ os, k ∈ s.reached .descendantOrSelf o :=
  mem_passing.trans (and_iff_right rfl)

theorem below_inside (shape : s.tree.WellFormed) (inside : ∀ id : Nat, some id ∈ os → id < s.tree.size) :
    ∀ k ∈ os.flatMap (s.passing .descendantOrSelf .any), k < s.tree.size := by
  intro k member
  obtain ⟨o,among,found⟩ := mem_below.mp member
  cases o with
  | none => exact documentNodes_inside shape .descendantOrSelf k found
  | some id =>
    have start := inside id among
    have leads := (Setting.mem_axisNodes shape.toPreordered start .descendantOrSelf).mp found
    exact leads.inside shape.toPreordered start

-- From all nodes below and from the document, if it was among the places, the children are what the
-- first places have as descendants.
theorem children_of_below (shape : s.tree.WellFormed) {m : Nat} {document : Bool}
    (inside : ∀ id : Nat, some id ∈ os → id < s.tree.size) (stays : document = true ↔ none ∈ os) :
    (∃ o ∈ os, m ∈ s.reached .descendant o) ↔
      ∃ o ∈ (if document then [none] else []) ++
          (documentOrder (os.flatMap (s.passing .descendantOrSelf .any))).map some,
        m ∈ s.reached .child o := by
  constructor
  · rintro ⟨o,among,found⟩
    have start : ∀ id : Nat, o = some id → id < s.tree.size := fun id same => inside id (same ▸ among)
    rcases (Setting.reached_descendant shape start).mp found with ⟨rfl,child⟩ | ⟨k,under,child⟩
    · rw [if_pos (stays.mpr among)]
      exact ⟨none,List.mem_cons_self,child⟩
    · refine ⟨some k,List.mem_append_right _ (List.mem_map.mpr ⟨k,?_,rfl⟩),child⟩
      exact mem_documentOrder.mpr (mem_below.mpr ⟨o,among,under⟩)
  · rintro ⟨o,among,child⟩
    rcases List.mem_append.mp among with top | node
    · split at top
      · rename_i present
        cases List.mem_singleton.mp top
        refine ⟨none,stays.mp present,?_⟩
        exact (Setting.reached_descendant (o := none) shape (by simp)).mpr (.inl ⟨rfl,child⟩)
      · cases top
    · obtain ⟨k,member,rfl⟩ := List.mem_map.mp node
      obtain ⟨o,first,under⟩ := mem_below.mp (mem_documentOrder.mp member)
      have start : ∀ id : Nat, o = some id → id < s.tree.size := fun id same => inside id (same ▸ first)
      exact ⟨o,first,(Setting.reached_descendant shape start).mpr (.inr ⟨k,under,child⟩)⟩

-- The one case in which the short form is not the long form itself: both fail at the same place, or
-- both put the same nodes in order.
theorem bare_child_descends (shape : s.tree.WellFormed) (test : NodeTest) (places : List Place) :
    (Step.mk .descendant test []).eval s places =
      Step.downward.eval s places >>= (Step.mk .child test []).eval s := by
  rw [Step.downward,bare_step (show Axis.descendant ≠ .attributes by decide),
    bare_step (show Axis.descendantOrSelf ≠ .attributes by decide)]
  cases stands : places.mapM s.standing with
  | error f => rfl
  | ok os =>
    have inside := standing_inside stands
    have stays : places.contains .document = true ↔ none ∈ os :=
      List.contains_iff_mem.trans (standing_document stands)
    change Except.ok (placesAfter false _) = (Step.mk .child test []).eval s
      (placesAfter (places.contains .document) (Value.ofNodes (os.flatMap (s.passing .descendantOrSelf .any))))
    rw [bare_step (show Axis.child ≠ .attributes by decide),standing_after (below_inside shape inside)]
    change Except.ok (placesAfter false _) = Except.ok (placesAfter false _)
    rw [placesAfter,placesAfter,Value.arrange_ofNodes,Value.arrange_ofNodes]
    refine congrArg (fun ids => Except.ok (_ ++ (Value.ofNodes ids).map Place.item)) ?_
    refine documentOrder_congr fun m => ?_
    rw [mem_passing,mem_passing,children_of_below shape inside stays]

theorem evalSteps_append (steps after : List Step) (places : List Place) :
    evalSteps s (steps ++ after) places = evalSteps s steps places >>= evalSteps s after := by
  induction steps generalizing places with
  | nil => rfl
  | cons step steps ih =>
    rw [List.cons_append,evalSteps,evalSteps]
    cases step.eval s places with
    | error f => rfl
    | ok next => exact ih next

theorem descendantSteps_eval (shape : s.tree.WellFormed) (step : Step) (places : List Place) :
    evalSteps s (descendantSteps step) places = evalSteps s [Step.downward,step] places := by
  obtain ⟨axis,test,predicates⟩ := step
  unfold descendantSteps
  split
  · rename_i bare
    rw [Bool.and_eq_true,decide_eq_true_eq,List.isEmpty_iff] at bare
    obtain ⟨rfl,rfl⟩ : axis = .child ∧ predicates = [] := bare
    simp only [evalSteps,Step.test,bare_child_descends shape,bind_assoc]
  · rfl

theorem path_eval_congr {steps other : List Step}
    (same : ∀ places, evalSteps s steps places = evalSteps s other places) (origin : Origin)
    (before after : List Step) (c : Context) :
    (Expr.path origin (before ++ steps ++ after)).eval s c =
      (Expr.path origin (before ++ other ++ after)).eval s c := by
  have whole : ∀ places, evalSteps s (before ++ steps ++ after) places =
      evalSteps s (before ++ other ++ after) places := by
    intro places
    simp only [evalSteps_append,funext same]
  rw [Expr.eval,Expr.eval,funext whole]

-- The symbols of `/descendant-or-self::node()/`.
def spelledOut : List Symbol :=
  [.slash,.name "descendant-or-self",.doubleColon,.name "node",.leftParen,.rightParen,.slash]

section Reading
variable {v : Vocabulary} {n : Nat} {k slash : Token} {ts rest written : List Token}
  {steps : List Step} {e : Expr}

theorem read_downward {axis colons node left right : Token}
    (signs : [axis,colons,node,left,right,slash].map (·.symbol) = spelledOut.tail) :
    readStep v (n + 2) (axis :: colons :: node :: left :: right :: slash :: ts) =
      .ok (Step.downward,slash :: ts) := by
  simp only [spelledOut,List.map_cons,List.map_nil,List.tail_cons,List.cons.injEq,and_true] at signs
  obtain ⟨isAxis,isColons,isNode,isLeft,isRight,isSlash⟩ := signs
  have known : Axis.ofName? "descendant-or-self" = some .descendantOrSelf := by decide
  have tested : readTest (node :: left :: right :: slash :: ts) = .ok (.any,slash :: ts) := by
    simp only [readTest,front,advance,expect,isNode,isLeft,isRight]
    rfl
  have walked : readAxisTest (axis :: colons :: node :: left :: right :: slash :: ts) =
      .ok (.descendantOrSelf,.any,slash :: ts) := by
    simp only [readAxisTest,front,second,advance,isAxis,isColons,known,tested]
    rfl
  rw [readStep,walked]
  change (readPredicates v (n + 1) (slash :: ts) >>= _) = _
  rw [readPredicates,front,isSlash]
  rfl

-- What a reading behind the sign comes to, whatever is made of the step and the steps that follow.
theorem read_behind (sign : k.symbol = .doubleSlash) {g : Step → List Step → α} {r : α × List Token}
    (read : (if startsStep (advance (k :: ts)) then do
        let (step,rest) ← readStep v n (advance (k :: ts))
        let (steps,rest) ← readSteps v n rest
        pure (g step steps,rest)
      else failAt (advance (k :: ts)) .missingStep) = .ok r) :
    ∃ step after middle, ts ≠ [] ∧ readStep v n ts = .ok (step,middle) ∧
      readSteps v n middle = .ok (after,r.2) ∧ r.1 = g step after := by
  cases ts with
  | nil =>
    rw [advance,startsStep,front,sign] at read
    cases read
  | cons t ts =>
    rw [show advance (k :: t :: ts) = t :: ts from rfl] at read
    split at read
    · obtain ⟨one,first,behind⟩ := bind_ok read
      obtain ⟨two,later,last⟩ := bind_ok behind
      cases last
      exact ⟨one.1,two.1,one.2,List.cons_ne_nil _ _,first,later,rfl⟩
    · cases read

-- Nothing is read without an allowance.
theorem readStep_deep {r : Step × List Token} (read : readStep v n ts = .ok r) : ∃ m, n = m + 1 := by
  cases n with
  | zero => cases read
  | succ m => exact ⟨m,rfl⟩

-- A slash with a step and further steps behind it.
theorem readSteps_slash {slash : Token} {step : Step} {after : List Step} {middle : List Token}
    (isSlash : slash.symbol = .slash) (more : ts ≠ []) (first : readStep v n ts = .ok (step,middle))
    (later : readSteps v n middle = .ok (after,rest)) :
    readSteps v (n + 1) (slash :: ts) = .ok (step :: after,rest) := by
  rw [readSteps,front,isSlash,if_pos rfl,advance_past slash more,first]
  change (readSteps v n middle >>= _) = _
  rw [later]
  rfl

-- The long form is read in two steps, and so takes one more of the allowance.
theorem read_spelledOut {step : Step} {after : List Step} {middle : List Token}
    (signs : written.map Token.symbol = spelledOut) (more : ts ≠ [])
    (first : readStep v n ts = .ok (step,middle)) (later : readSteps v n middle = .ok (after,rest)) :
    ∃ start tail last, written ++ ts = start :: tail ∧ start.symbol = .slash ∧
      advance (start :: tail) = tail ∧ startsStep tail = true ∧
      readStep v (n + 1) tail = .ok (Step.downward,last) ∧
      readSteps v (n + 1) last = .ok (step :: after,rest) := by
  have whole := signs
  simp only [spelledOut,List.map_eq_cons_iff,List.map_eq_nil_iff] at signs
  obtain ⟨start,_,rfl,isStart,axis,_,rfl,isAxis,colons,_,rfl,_,node,_,rfl,_,left,_,rfl,_,right,_,rfl,_,
    slash,_,rfl,isSlash,rfl⟩ := signs
  obtain ⟨n,rfl⟩ := readStep_deep first
  refine ⟨start,_,slash :: ts,rfl,isStart,rfl,?_,read_downward (List.cons.inj whole).2,
    readSteps_slash isSlash more first later⟩
  change startsStep (axis :: colons :: node :: left :: right :: slash :: ts) = true
  rw [startsStep,front,isAxis]

theorem readSteps_doubleSlash (sign : k.symbol = .doubleSlash)
    (signs : written.map Token.symbol = spelledOut)
    (read : readSteps v (n + 1) (k :: ts) = .ok (steps,rest)) :
    ∃ step after, steps = descendantSteps step ++ after ∧
      readSteps v (n + 2) (written ++ ts) = .ok (Step.downward :: step :: after,rest) := by
  rw [readSteps,front,sign,if_neg (by decide),if_pos rfl] at read
  obtain ⟨step,after,middle,more,first,later,made⟩ :=
    read_behind sign (g := fun step steps => descendantSteps step ++ steps) read
  obtain ⟨start,tail,last,split,isStart,past,_,down,long⟩ := read_spelledOut signs more first later
  refine ⟨step,after,made,?_⟩
  rw [split,readSteps,front,isStart,if_pos rfl,past,down]
  change (readSteps v (n + 1) last >>= _) = _
  rw [long]
  rfl

theorem readPath_doubleSlash (sign : k.symbol = .doubleSlash)
    (signs : written.map Token.symbol = spelledOut) (read : readPath v (n + 1) (k :: ts) = .ok (e,rest)) :
    ∃ step after, e = .path .document (descendantSteps step ++ after) ∧
      readPath v (n + 2) (written ++ ts) =
        .ok (.path .document (Step.downward :: step :: after),rest) := by
  rw [readPath,front,sign,if_neg (by decide),if_pos rfl] at read
  obtain ⟨step,after,middle,more,first,later,made⟩ :=
    read_behind sign (g := fun step steps => Expr.path .document (descendantSteps step ++ steps)) read
  obtain ⟨start,tail,last,split,isStart,past,starts,down,long⟩ := read_spelledOut signs more first later
  refine ⟨step,after,made,?_⟩
  rw [split,readPath,front,isStart,if_pos rfl,past,if_pos starts,down]
  change (readSteps v (n + 1) last >>= _) = _
  rw [long]
  rfl

end Reading

-- Whatever stands around it, a double slash gives the value or the failure of its long form. This holds
-- of the steps that it stands for and of what the reader makes of its symbols, within a path and at
-- the start of one.
theorem doubleSlash_spelledOut (s : Setting) (built : s.tree.Built) :
    (∀ origin before step after c,
      (Expr.path origin (before ++ descendantSteps step ++ after)).eval s c =
        (Expr.path origin (before ++ [Step.downward,step] ++ after)).eval s c) ∧
    ∀ (v : Vocabulary) (n : Nat) (k : Token) (ts written rest : List Token),
      k.symbol = .doubleSlash → written.map Token.symbol = spelledOut →
        (∀ steps, readSteps v (n + 1) (k :: ts) = .ok (steps,rest) →
          ∃ long, readSteps v (n + 2) (written ++ ts) = .ok (long,rest) ∧
            ∀ origin before c, (Expr.path origin (before ++ steps)).eval s c =
              (Expr.path origin (before ++ long)).eval s c) ∧
        (∀ e, readPath v (n + 1) (k :: ts) = .ok (e,rest) →
          ∃ long, readPath v (n + 2) (written ++ ts) = .ok (long,rest) ∧ ∀ c, e.eval s c = long.eval s c) := by
  have spelled : ∀ origin before step after c,
      (Expr.path origin (before ++ descendantSteps step ++ after)).eval s c =
        (Expr.path origin (before ++ [Step.downward,step] ++ after)).eval s c :=
    fun origin before step after c =>
      path_eval_congr (descendantSteps_eval built.wellFormed step) origin before after c
  refine ⟨spelled,fun v n k ts written rest sign signs => ⟨?_,?_⟩⟩
  · intro steps read
    obtain ⟨step,after,rfl,long⟩ := readSteps_doubleSlash sign signs read
    refine ⟨_,long,fun origin before c => ?_⟩
    have same := spelled origin before step after c
    rwa [List.append_assoc,List.append_assoc] at same
  · intro e read
    obtain ⟨step,after,rfl,long⟩ := readPath_doubleSlash sign signs read
    exact ⟨_,long,fun c => spelled .document [] step after c⟩

theorem doubleSlash_spelledOut_sample :
    let behind : List Token := [⟨.name "Block",2⟩,⟨.finish,7⟩]
    let short : Expr := .path .document [.mk .descendant (.name "Block") []]
    readPath ⟨Java.language,[]⟩ 4 (⟨.doubleSlash,0⟩ :: behind) = .ok (short,[⟨.finish,7⟩]) ∧
      ∃ long, readPath ⟨Java.language,[]⟩ 5 (spelledOut.map (⟨·,0⟩) ++ behind) = .ok (long,[⟨.finish,7⟩]) ∧
        short.eval ⟨sample,Java.language⟩ Context.document =
          long.eval ⟨sample,Java.language⟩ Context.document := by
  intro behind short
  have read : readPath ⟨Java.language,[]⟩ 4 (⟨.doubleSlash,0⟩ :: behind) = .ok (short,[⟨.finish,7⟩]) := rfl
  obtain ⟨_,reading⟩ := doubleSlash_spelledOut ⟨sample,Java.language⟩ sample_built
  obtain ⟨long,found,same⟩ := (reading ⟨Java.language,[]⟩ 3 ⟨.doubleSlash,0⟩ behind
    (spelledOut.map (⟨·,0⟩)) [⟨.finish,7⟩] rfl rfl).2 short read
  exact ⟨read,long,found,same Context.document⟩

end TreeAudit.Query
