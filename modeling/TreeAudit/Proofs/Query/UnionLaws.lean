import TreeAudit.Proofs.Query.SelfStep

-- Unions of node sequences. A step selects from each node on its own, its predicates count among what
-- that node leads to, and the results are put in order afterwards: so it does not matter whether two
-- sequences are united before the step or behind it.
namespace TreeAudit.Query

-- What a step selects from one item.
def Step.select (s : Setting) (step : Step) (i : Item) : Except Failure (List Item) := do
  evalPredicates s step.predicates (← s.candidates step.axis step.test (.item i))

-- A step from the items of a value.
def Step.onward (s : Setting) (step : Step) (items : Value) : Except Failure Value := do
  let found ← items.mapM (step.select s)
  pure (arrange found.flatten)

section Selecting
variable {s : Setting} {step : Step} {items value : Value} {i j : Item} {found : List Item}
  {g : Item → Except Failure (List Item)} {all : List (List Item)}

theorem mapM_each (done : items.mapM g = .ok all) :
    (∀ i ∈ items, ∃ found, g i = .ok found) ∧
      ∀ j, j ∈ all.flatten ↔ ∃ i ∈ items, ∃ found, g i = .ok found ∧ j ∈ found := by
  induction items generalizing all with
  | nil => cases done; simp
  | cons i items ih =>
    obtain ⟨found,rest,first,later,rfl⟩ := mapM_cons_ok done
    obtain ⟨each,members⟩ := ih later
    refine ⟨List.forall_mem_cons.mpr ⟨⟨found,first⟩,each⟩,fun j => ?_⟩
    rw [List.flatten_cons,List.mem_append,members,List.exists_mem_cons_iff,first]
    simp

theorem filterFrom_sublist {holds : Context → Except Failure Value} {size position : Nat}
    (done : filterFrom holds size position items = .ok found) : found.Sublist items := by
  have any : ∀ x : Except Failure Value, Ends (fun _ => True) (fun _ => True) x := by
    rintro (f | a) <;> trivial
  have ends : Ends (fun kept => kept.Sublist items) (fun _ => True)
      (filterFrom holds size position items) :=
    filterFrom_ends (fun _ _ => trivial) (fun i _ position => any _) position
  exact ends.value done

theorem evalPredicates_sublist {predicates : List Expr}
    (done : evalPredicates s predicates items = .ok found) : found.Sublist items := by
  induction predicates generalizing items with
  | nil =>
    rw [evalPredicates] at done
    cases done
    exact .refl _
  | cons p predicates ih =>
    rw [evalPredicates] at done
    obtain ⟨kept,first,later⟩ := bind_ok done
    exact (ih later).trans (filterFrom_sublist first)

-- Along all axes but one a step leads from nodes to nodes, and from nothing else.
theorem select_nodes (walks : step.axis ≠ .attributes) (done : step.select s i = .ok found) :
    i.isNode = true ∧ ∀ j ∈ found, j.isNode = true := by
  rw [Step.select,Setting.candidates_eq walks] at done
  obtain ⟨candidates,stands,kept⟩ := bind_ok done
  cases i with
  | atom a => cases stands
  | node id =>
    refine ⟨rfl,fun j member => ?_⟩
    cases at_ : s.standing (.item (.node id)) with
    | error f =>
      rw [at_] at stands
      cases stands
    | ok o =>
      rw [at_] at stands
      cases stands
      obtain ⟨m,_,rfl⟩ := List.mem_map.mp ((evalPredicates_sublist kept).subset member)
      rfl

theorem step_items (s : Setting) (step : Step) (items : Value) : step.eval s (items.map .item) =
    (fun all => (arrange all.flatten).map Place.item) <$> items.mapM (step.select s) := by
  have below : step.keepsDocument (items.map .item) = false := by
    simp [Step.keepsDocument]
  obtain ⟨axis,test,predicates⟩ := step
  rw [Step.eval,below,List.mapM_map]
  rfl

theorem path_onward (e : Expr) (c : Context) :
    (Expr.path (.value e) [step]).eval s c = e.eval s c >>= step.onward s := by
  rw [Expr.eval,Origin.places]
  cases e.eval s c with
  | error f => rfl
  | ok items =>
    change (evalSteps s [step] (items.map .item) >>= _) = step.onward s items
    rw [evalSteps,step_items,Step.onward]
    cases items.mapM (step.select s) with
    | error f => rfl
    | ok all => exact congrArg Except.ok (items_of_places _)

end Selecting

-- The nodes with a property, each once and in document order.
def Value.Lists (member : Nat → Prop) (value : Value) : Prop :=
  ∃ ids : List Nat, value = Value.ofNodes ids ∧ ids.Pairwise (· < ·) ∧ ∀ m, m ∈ ids ↔ member m

-- A step can be taken from an item, and a node is among what it selects there.
def Step.Starts (s : Setting) (step : Step) (i : Item) : Prop := ∃ found, step.select s i = .ok found

def Step.LeadsTo (s : Setting) (step : Step) (i : Item) (m : Nat) : Prop :=
  ∃ found, step.select s i = .ok found ∧ .node m ∈ found

section Listing
variable {s : Setting} {step : Step} {items value x y z w : Value} {member other : Nat → Prop}
  {i : Item} {m : Nat}

theorem mem_ofNodes {ids : List Nat} : i ∈ Value.ofNodes ids ↔ ∃ m ∈ ids, i = .node m := by
  rw [Value.ofNodes,List.mem_map]
  exact exists_congr fun m => and_congr_right fun _ => eq_comm

theorem Value.Lists.nodes (lists : value.Lists member) : ∀ i ∈ value, i.isNode = true := by
  obtain ⟨ids,rfl,_,_⟩ := lists
  intro i inside
  obtain ⟨m,_,rfl⟩ := mem_ofNodes.mp inside
  rfl

theorem Value.Lists.mem (lists : value.Lists member) : .node m ∈ value ↔ member m := by
  obtain ⟨ids,rfl,_,members⟩ := lists
  rw [← Value.mem_nodeIds,Value.nodeIds_ofNodes,members]

theorem Value.Lists.unique (one : value.Lists member) (two : w.Lists member) : value = w := by
  obtain ⟨ids,rfl,ascending,members⟩ := one
  obtain ⟨others,rfl,rising,others_members⟩ := two
  rw [ascending.eq_of_mem_iff rising fun m => (members m).trans (others_members m).symm]

theorem Value.Lists.congr (same : ∀ m, member m ↔ other m) : value.Lists member ↔ value.Lists other := by
  rw [funext fun m => propext (same m)]

theorem arrange_lists (nodes : ∀ i ∈ items, i.isNode = true) :
    Value.Lists (fun m => .node m ∈ items) (arrange items) := by
  have all : items.allNodes = true := List.all_eq_true.mpr nodes
  rw [arrange,if_pos all]
  exact ⟨_,rfl,documentOrder_ascending _,fun m => mem_documentOrder.trans Value.mem_nodeIds⟩

theorem unite_arrange (nodes : ∀ i ∈ x ++ y, i.isNode = true) : unite x y = .ok (arrange (x ++ y)) := by
  have all : (x ++ y).allNodes = true := List.all_eq_true.mpr nodes
  have each : (x.allNodes && y.allNodes) = true := List.all_append.symm.trans all
  have ids : x.nodeIds ++ y.nodeIds = (x ++ y).nodeIds := List.filterMap_append.symm
  rw [unite,if_pos each,arrange,if_pos all,ids]

theorem unite_nodes (united : unite x y = .ok z) : ∀ i ∈ x ++ y, i.isNode = true := by
  unfold unite at united
  split at united
  · rename_i each
    exact List.all_eq_true.mp (List.all_append.trans each)
  · cases united

theorem unite_ok : unite x y = .ok z ↔
    (∀ i ∈ x ++ y, i.isNode = true) ∧ z.Lists fun m => .node m ∈ x ++ y := by
  constructor
  · intro united
    have nodes := unite_nodes united
    rw [unite_arrange nodes] at united
    cases united
    exact ⟨nodes,arrange_lists nodes⟩
  · rintro ⟨nodes,lists⟩
    rw [unite_arrange nodes,(arrange_lists nodes).unique lists]

-- A union has the items of both sides and no others.
theorem unite_mem (united : unite x y = .ok z) : i ∈ z ↔ i ∈ x ++ y := by
  obtain ⟨nodes,lists⟩ := unite_ok.mp united
  constructor
  · intro inside
    obtain ⟨ids,rfl,_,members⟩ := lists
    obtain ⟨m,among,rfl⟩ := mem_ofNodes.mp inside
    exact (members m).mp among
  · intro inside
    cases i with
    | node m => exact lists.mem.mpr inside
    | atom a => cases nodes _ inside

theorem onward_ok (walks : step.axis ≠ .attributes) : step.onward s items = .ok z ↔
    (∀ i ∈ items, step.Starts s i) ∧ z.Lists fun m => ∃ i ∈ items, step.LeadsTo s i m := by
  have listed : ∀ all, items.mapM (step.select s) = .ok all →
      Value.Lists (fun m => ∃ i ∈ items, step.LeadsTo s i m) (arrange all.flatten) := by
    intro all done
    obtain ⟨_,members⟩ := mapM_each done
    refine (Value.Lists.congr fun m => members (.node m)).mp (arrange_lists fun j among => ?_)
    obtain ⟨i,_,found,selected,inside⟩ := (members j).mp among
    exact (select_nodes walks selected).2 j inside
  rw [Step.onward,bind_eq_ok]
  constructor
  · rintro ⟨all,done,last⟩
    cases last
    exact ⟨(mapM_each done).1,listed all done⟩
  · rintro ⟨starts,lists⟩
    obtain ⟨all,done⟩ := mapM_total starts
    exact ⟨all,done,congrArg Except.ok ((listed all done).unique lists)⟩

theorem onward_total (starts : ∀ i ∈ items, step.Starts s i) : ∃ z, step.onward s items = .ok z := by
  obtain ⟨all,done⟩ := mapM_total starts
  exact ⟨arrange all.flatten,by rw [Step.onward,done]; rfl⟩

-- The step behind the union, and the union behind the step: both need a start at each item of either side,
-- and both list what any of these items leads to.
theorem unite_onward (walks : step.axis ≠ .attributes) : unite x y >>= step.onward s = .ok z ↔
    (∀ i ∈ x ++ y, step.Starts s i) ∧ z.Lists fun m => ∃ i ∈ x ++ y, step.LeadsTo s i m := by
  rw [bind_eq_ok]
  constructor
  · rintro ⟨both,united,stepped⟩
    simpa only [onward_ok walks,unite_mem united] using stepped
  · intro listed
    have nodes : ∀ i ∈ x ++ y, i.isNode = true := by
      intro i inside
      obtain ⟨found,selected⟩ := listed.1 i inside
      exact (select_nodes walks selected).1
    have united := unite_arrange nodes
    refine ⟨_,united,?_⟩
    simpa only [onward_ok walks,unite_mem united] using listed

theorem onward_unite (walks : step.axis ≠ .attributes) :
    (step.onward s x >>= fun a => step.onward s y >>= fun b => unite a b) = .ok z ↔
      (∀ i ∈ x ++ y, step.Starts s i) ∧ z.Lists fun m => ∃ i ∈ x ++ y, step.LeadsTo s i m := by
  have pooled : ∀ {a b : Value}, step.onward s x = .ok a → step.onward s y = .ok b → ∀ m,
      .node m ∈ a ++ b ↔ ∃ i ∈ x ++ y, step.LeadsTo s i m := by
    intro a b left right m
    rw [List.mem_append,((onward_ok walks).mp left).2.mem,((onward_ok walks).mp right).2.mem]
    simp only [List.mem_append,or_and_right,exists_or]
  constructor
  · intro done
    obtain ⟨a,left,later⟩ := bind_ok done
    obtain ⟨b,right,united⟩ := bind_ok later
    refine ⟨fun i inside => ?_,(Value.Lists.congr (pooled left right)).mp (unite_ok.mp united).2⟩
    rcases List.mem_append.mp inside with here | there
    · exact ((onward_ok walks).mp left).1 i here
    · exact ((onward_ok walks).mp right).1 i there
  · rintro ⟨starts,lists⟩
    obtain ⟨a,left⟩ := onward_total fun i inside => starts i (List.mem_append_left y inside)
    obtain ⟨b,right⟩ := onward_total fun i inside => starts i (List.mem_append_right x inside)
    have nodes : ∀ i ∈ a ++ b, i.isNode = true := List.forall_mem_append.mpr
      ⟨((onward_ok walks).mp left).2.nodes,((onward_ok walks).mp right).2.nodes⟩
    rw [left,right]
    exact unite_ok.mpr ⟨nodes,(Value.Lists.congr (pooled left right)).mpr lists⟩

theorem unite_comm (x y : Value) : unite x y = unite y x := by
  have same : ∀ m, m ∈ x.nodeIds ++ y.nodeIds ↔ m ∈ y.nodeIds ++ x.nodeIds := fun m => by
    rw [List.mem_append,List.mem_append,or_comm]
  rw [unite,unite,Bool.and_comm,documentOrder_congr same]

theorem unite_twice : (unite x y >>= fun both => unite both w) = .ok z ↔
    (∀ i ∈ x ++ y ++ w, i.isNode = true) ∧ z.Lists fun m => .node m ∈ x ++ y ++ w := by
  rw [bind_eq_ok]
  constructor
  · rintro ⟨both,united,last⟩
    simpa only [unite_ok,List.mem_append,unite_mem united] using last
  · intro listed
    have united := unite_arrange fun i inside => listed.1 i (List.mem_append_left w inside)
    refine ⟨_,united,?_⟩
    simpa only [unite_ok,List.mem_append,unite_mem united] using listed

theorem unite_assoc : (unite x y >>= fun both => unite both w) = .ok z ↔
    (unite y w >>= fun both => unite x both) = .ok z := by
  have turned : (unite y w >>= fun both => unite x both) = (unite y w >>= fun both => unite both x) :=
    bind_congr fun both => unite_comm x both
  have pooled : ∀ i, i ∈ x ++ y ++ w ↔ i ∈ y ++ w ++ x := fun i => by
    simp only [List.mem_append]
    tauto
  rw [turned,unite_twice,unite_twice]
  simp only [pooled]

theorem unite_self (nodes : ∀ i ∈ x, i.isNode = true) : unite x x = .ok (arrange x) := by
  have doubled : ∀ i ∈ x ++ x, i.isNode = true := List.forall_mem_append.mpr ⟨nodes,nodes⟩
  refine unite_ok.mpr ⟨doubled,(Value.Lists.congr fun m => ?_).mp (arrange_lists nodes)⟩
  rw [List.mem_append,or_self]

end Listing

section Laws
variable {s : Setting} {steps : List Step} {places reached : List Place} {value : Value} {c : Context}
  {origin : Origin}

theorem arrange_arrange (items : Value) : arrange (arrange items) = arrange items := by
  by_cases all : Value.allNodes items = true
  · rw [arrange.eq_def items,if_pos all,Value.arrange_ofNodes,
      documentOrder_of_ascending (documentOrder_ascending _)]
  · rw [arrange.eq_def items,if_neg all,arrange,if_neg all]

-- What a path ends with has been put in order by its last step.
theorem evalSteps_arranged (some : steps ≠ []) (done : evalSteps s steps places = .ok reached) :
    ∃ items, reached.filterMap Place.item? = arrange items := by
  induction steps generalizing places with
  | nil => exact absurd rfl some
  | cons step rest ih =>
    rw [evalSteps] at done
    obtain ⟨next,stepped,later⟩ := bind_ok done
    by_cases last : rest = []
    · subst last
      cases later
      obtain ⟨axis,test,predicates⟩ := step
      rw [Step.eval] at stepped
      obtain ⟨selected,_,ended⟩ := bind_ok stepped
      cases ended
      refine ⟨selected.flatten,?_⟩
      rw [placesAfter,List.filterMap_append,items_of_places]
      split
      · rfl
      · rfl
    · exact ih last later

theorem path_arranged (ordered : steps ≠ [] ∨ origin = .document)
    (result : (Expr.path origin steps).eval s c = .ok value) : arrange value = value := by
  rw [Expr.eval] at result
  obtain ⟨places,start,later⟩ := bind_ok result
  obtain ⟨reached,done,last⟩ := bind_ok later
  cases last
  by_cases some : steps = []
  · obtain rfl := ordered.resolve_left fun other => other some
    subst some
    cases start
    cases done
    exact Value.arrange_nil
  · obtain ⟨items,arranged⟩ := evalSteps_arranged some done
    rw [arranged,arrange_arrange]

theorem toOption_congr {x y : Except Failure Value} (same : ∀ value, x = .ok value ↔ y = .ok value) :
    x.toOption = y.toOption := by
  cases x with
  | ok value => rw [(same value).mp rfl]
  | error f =>
    cases y with
    | ok value => cases (same value).mpr rfl
    | error g => rfl

theorem union_ok {a b : Expr} : (Expr.union a b).eval s c = .ok value ↔
    ∃ x y, a.eval s c = .ok x ∧ b.eval s c = .ok y ∧ unite x y = .ok value := by
  rw [Expr.eval,bind_eq_ok]
  simp only [bind_eq_ok,exists_and_left]

theorem union_step {a b : Expr} {step : Step} (walks : step.axis ≠ .attributes) :
    (Expr.path (.value (.union a b)) [step]).eval s c = .ok value ↔
      (Expr.union (.path (.value a) [step]) (.path (.value b) [step])).eval s c = .ok value := by
  rw [path_onward,bind_eq_ok,union_ok,path_onward,path_onward]
  constructor
  · rintro ⟨both,united,stepped⟩
    obtain ⟨x,y,left,right,together⟩ := union_ok.mp united
    have listed := (unite_onward walks).mp (bind_eq_ok.mpr ⟨both,together,stepped⟩)
    obtain ⟨p,one,later⟩ := bind_ok ((onward_unite walks).mpr listed)
    obtain ⟨q,two,last⟩ := bind_ok later
    exact ⟨p,q,bind_eq_ok.mpr ⟨x,left,one⟩,bind_eq_ok.mpr ⟨y,right,two⟩,last⟩
  · rintro ⟨p,q,left,right,together⟩
    obtain ⟨x,first,one⟩ := bind_ok left
    obtain ⟨y,second,two⟩ := bind_ok right
    have listed : (step.onward s x >>= fun a => step.onward s y >>= fun b => unite a b) = .ok value :=
      bind_eq_ok.mpr ⟨p,one,bind_eq_ok.mpr ⟨q,two,together⟩⟩
    obtain ⟨both,united,stepped⟩ := bind_ok ((unite_onward walks).mpr ((onward_unite walks).mp listed))
    exact ⟨both,union_ok.mpr ⟨x,y,first,second,united⟩,stepped⟩

theorem union_comm (a b : Expr) : (Expr.union a b).eval s c = .ok value ↔
    (Expr.union b a).eval s c = .ok value := by
  have turned : ∀ {a b : Expr}, (Expr.union a b).eval s c = .ok value →
      (Expr.union b a).eval s c = .ok value := by
    intro a b united
    obtain ⟨x,y,left,right,together⟩ := union_ok.mp united
    exact union_ok.mpr ⟨y,x,right,left,unite_comm x y ▸ together⟩
  exact ⟨turned,turned⟩

theorem union_assoc (a b d : Expr) : (Expr.union (.union a b) d).eval s c = .ok value ↔
    (Expr.union a (.union b d)).eval s c = .ok value := by
  rw [union_ok,union_ok]
  constructor
  · rintro ⟨both,z,united,third,last⟩
    obtain ⟨x,y,first,second,together⟩ := union_ok.mp united
    obtain ⟨later,united,whole⟩ := bind_ok (unite_assoc.mp (bind_eq_ok.mpr ⟨both,together,last⟩))
    exact ⟨x,later,first,union_ok.mpr ⟨y,z,second,third,united⟩,whole⟩
  · rintro ⟨x,both,first,united,last⟩
    obtain ⟨y,z,second,third,together⟩ := union_ok.mp united
    obtain ⟨earlier,united,whole⟩ := bind_ok (unite_assoc.mpr (bind_eq_ok.mpr ⟨both,together,last⟩))
    exact ⟨earlier,z,union_ok.mpr ⟨x,y,first,second,united⟩,third,whole⟩

theorem union_self (ordered : steps ≠ [] ∨ origin = .document)
    (nodes : ∀ value, (Expr.path origin steps).eval s c = .ok value → value.allNodes = true) :
    (Expr.union (.path origin steps) (.path origin steps)).eval s c = (Expr.path origin steps).eval s c := by
  rw [Expr.eval]
  cases result : (Expr.path origin steps).eval s c with
  | error f => rfl
  | ok value =>
    change unite value value = .ok value
    rw [unite_self (List.all_eq_true.mp (nodes value result)),path_arranged ordered result]

end Laws

-- A step behind a union is the union of the steps behind its sides: along all axes but `attribute`, with any
-- predicates, both fail or both have the same value. The order of the sides and the order of uniting change
-- nothing either, and a path that selects nodes is its own union with itself.
theorem union_laws (s : Setting) :
    (∀ a b step c, step.axis ≠ .attributes →
      ((Expr.path (.value (.union a b)) [step]).eval s c).toOption =
        ((Expr.union (.path (.value a) [step]) (.path (.value b) [step])).eval s c).toOption) ∧
    (∀ a b c, ((Expr.union a b).eval s c).toOption = ((Expr.union b a).eval s c).toOption) ∧
    (∀ a b d c, ((Expr.union (.union a b) d).eval s c).toOption =
      ((Expr.union a (.union b d)).eval s c).toOption) ∧
    ∀ origin steps c, steps ≠ [] ∨ origin = .document →
      (∀ value, (Expr.path origin steps).eval s c = .ok value → value.allNodes = true) →
      (Expr.union (.path origin steps) (.path origin steps)).eval s c =
        (Expr.path origin steps).eval s c := by
  refine ⟨?_,?_,?_,?_⟩
  · exact fun a b step c walks => toOption_congr fun value => union_step walks
  · exact fun a b c => toOption_congr fun value => union_comm a b
  · exact fun a b d c => toOption_congr fun value => union_assoc a b d
  · exact fun origin steps c ordered nodes => union_self ordered nodes

-- The first child of the root and of each method; and the root united with itself.
theorem union_laws_sample :
    let s : Setting := ⟨sample,Java.language⟩
    let root : Expr := .path .document [.mk .child .any []]
    let methods : Expr := .path .document (descendantSteps (.mk .child (.name "MethodDeclaration") []))
    let first : Step := .mk .child .any [.const (Value.count 1)]
    root.eval s Context.document = .ok (Value.ofNodes [Tree.root]) ∧
      methods.eval s Context.document = .ok (Value.ofNodes [1,3]) ∧
      first.axis ≠ .attributes ∧
      ((Expr.path (.value (.union root methods)) [first]).eval s Context.document).toOption =
        ((Expr.union (.path (.value root) [first]) (.path (.value methods) [first])).eval s
          Context.document).toOption ∧
      (Expr.union root root).eval s Context.document = root.eval s Context.document := by
  intro s root methods first
  obtain ⟨behind,_,_,own⟩ := union_laws s
  have top : root.eval s Context.document = .ok (Value.ofNodes [Tree.root]) :=
    document_step (by decide) rfl rfl rfl (by decide)
  have below : methods.eval s Context.document = .ok (Value.ofNodes [1,3]) :=
    document_step (by decide) rfl rfl (by decide +kernel) (by decide)
  have walks : first.axis ≠ .attributes := by decide
  refine ⟨top,below,walks,behind root methods first _ walks,?_⟩
  refine own .document _ Context.document (.inl (List.cons_ne_nil _ _)) fun value result => ?_
  rw [← Except.ok.inj (top.symm.trans result)]
  rfl

end TreeAudit.Query
