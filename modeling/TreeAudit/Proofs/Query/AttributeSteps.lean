import TreeAudit.Proofs.Query.SelfStep

-- Attributes by name and all attributes together. A node has its own attributes first and then those
-- generic ones whose names are free; a name stands for the first attribute that has it. Steps along the
-- attributes pick from this one listing, whatever the language lists, repeated names included.
namespace TreeAudit

namespace Attribute
variable {provider : Tree → NodeId → List Attribute} {own gs : List Attribute} {t : Tree} {id : Nat}
  {name : String}

-- One more attribute, left out if its name is taken.
def enter (taken : List Attribute) (g : Attribute) : List Attribute :=
  if taken.any (·.name = g.name) then taken else taken ++ [g]

-- With distinct names among the attributes that are entered, only the names there before them matter.
theorem foldl_enter (distinct : (gs.map (·.name)).Nodup) :
    gs.foldl enter own = own ++ gs.filter fun g => !own.any (·.name = g.name) := by
  induction gs generalizing own with
  | nil => simp
  | cons g gs ih =>
    obtain ⟨apart,rest⟩ := List.nodup_cons.mp distinct
    cases taken : own.any (·.name = g.name) with
    | true =>
      have left : enter own g = own := if_pos taken
      rw [List.foldl_cons,left,ih rest]
      simp [taken]
    | false =>
      have entered : enter own g = own ++ [g] := if_neg (by simp [taken])
      have others : ∀ h ∈ gs, (!(own ++ [g]).any (·.name = h.name)) = !own.any (·.name = h.name) := by
        intro h member
        have differs : g.name ≠ h.name := by
          intro same
          exact apart (List.mem_map.mpr ⟨h,member,same.symm⟩)
        simp [differs]
      rw [List.foldl_cons,entered,ih rest,List.filter_congr others]
      simp [taken]

theorem generic_distinct (t : Tree) (id : Nat) : ((generic t id).map (·.name)).Nodup := by
  unfold generic
  split
  · simp [text,count]
  · simp [count]

theorem all_entered (provider : Tree → NodeId → List Attribute) (t : Tree) (id : Nat) :
    all provider t id = (generic t id).foldl enter (provider t id) :=
  (foldl_enter (generic_distinct t id)).symm

-- The attributes with a name are those of the language; the generic ones stand in where it has none.
theorem all_named : (all provider t id).filter (·.name = name) =
    if (provider t id).any (·.name = name) then (provider t id).filter (·.name = name)
    else (generic t id).filter (·.name = name) := by
  have free : ∀ g ∈ generic t id, (decide (g.name = name) && !(provider t id).any (·.name = g.name)) =
      (decide (g.name = name) && !(provider t id).any (·.name = name)) := by
    intro g _
    by_cases same : g.name = name
    · rw [same]
    · simp [same]
  rw [all,List.filter_append,List.filter_filter,List.filter_congr free]
  cases taken : (provider t id).any (·.name = name) with
  | true => simp
  | false =>
    have none : (provider t id).filter (·.name = name) = [] := by
      simpa [List.filter_eq_nil_iff] using taken
    simp [none]

theorem find?_all : find? provider t id name = ((all provider t id).find? (·.name = name)).map (·.value) := by
  rw [find?,← List.head?_filter (l := all provider t id),all_named]
  cases taken : (provider t id).any (·.name = name) with
  | true =>
    have found : ((provider t id).find? (·.name = name)).isSome = true := by
      simpa using taken
    obtain ⟨a,first⟩ := Option.isSome_iff_exists.mp found
    rw [if_pos rfl,List.head?_filter,first]
    rfl
  | false =>
    have none : (provider t id).find? (·.name = name) = none := by
      simpa using taken
    rw [if_neg Bool.false_ne_true,List.head?_filter,none]
    rfl

end Attribute

-- What a name stands for at a node, by the listing of its attributes.
structure Language.Names (l : Language) (t : Tree) (id : NodeId) (name : String) : Prop where
  first : ∀ v, l.attributeNamed? t id name = some v ↔ ∃ before a after,
    l.attributesOf t id = before ++ a :: after ∧ a.name = name ∧ a.value = v ∧ ∀ b ∈ before, b.name ≠ name
  absent : l.attributeNamed? t id name = none ↔ ∀ a ∈ l.attributesOf t id, a.name ≠ name
  entered : l.attributesOf t id = (Attribute.generic t id).foldl Attribute.enter (l.attributes t id)
  shadowed : (∃ a ∈ l.attributes t id, a.name = name) →
    (l.attributesOf t id).filter (·.name = name) = (l.attributes t id).filter (·.name = name)

theorem Language.names (l : Language) (t : Tree) (id : NodeId) (name : String) : l.Names t id name where
  first := by
    intro v
    rw [attributeNamed?,Attribute.find?_all,Option.map_eq_some_iff]
    constructor
    · rintro ⟨a,found,value⟩
      obtain ⟨named,before,after,whole,others⟩ := List.find?_eq_some_iff_append.mp found
      exact ⟨before,a,after,whole,by simpa using named,value,by simpa using others⟩
    · rintro ⟨before,a,after,whole,named,value,others⟩
      refine ⟨a,List.find?_eq_some_iff_append.mpr ⟨?_,before,after,whole,?_⟩,value⟩
      · simpa using named
      · simpa using others
  absent := by
    rw [attributeNamed?,Attribute.find?_all,Option.map_eq_none_iff,List.find?_eq_none]
    simp [attributesOf]
  entered := Attribute.all_entered l.attributes t id
  shadowed := by
    intro taken
    rw [attributesOf,Attribute.all_named,if_pos (by simpa using taken)]

namespace Query

def NodeTest.picks : NodeTest → List Attribute → List Attribute
  | .any, as => as
  | .name n, as => (as.find? (·.name = n)).toList

def attributeItems (as : List Attribute) : List Item :=
  as.map fun a => .atom a.value

-- The attributes where a step starts. The document has none.
def Setting.listed (s : Setting) : Option Nat → List Attribute
  | none => []
  | some id => s.language.attributesOf s.tree id

def Setting.attributesAt (s : Setting) (p : Place) : Except Failure (List Attribute) :=
  s.listed <$> s.standing p

theorem attributeValues_picks (s : Setting) (test : NodeTest) (id : Nat) :
    (s.attributeValues test id).map .atom = attributeItems (test.picks (s.language.attributesOf s.tree id)) := by
  cases test with
  | any => simp [Setting.attributeValues,NodeTest.picks,attributeItems]
  | name n =>
    rw [Setting.attributeValues,Language.attributeNamed?,Attribute.find?_all,NodeTest.picks,attributeItems,
      Language.attributesOf]
    cases (Attribute.all s.language.attributes s.tree id).find? (·.name = n) with
    | none => rfl
    | some a => rfl

theorem candidates_attributes (s : Setting) (test : NodeTest) (p : Place) :
    s.candidates .attributes test p = (fun as => attributeItems (test.picks as)) <$> s.attributesAt p := by
  match p with
  | .document => cases test <;> rfl
  | .item (.atom a) => rfl
  | .item (.node id) =>
    rw [Setting.candidates,Setting.attributesAt,Setting.standing_node,Setting.node]
    simp only [attributeValues_picks]
    by_cases inside : id < s.tree.size
    · rw [if_pos inside,if_pos inside]
      rfl
    · rw [if_neg inside,if_neg inside]
      rfl

theorem arrange_attributeItems (as : List Attribute) : arrange (attributeItems as) = attributeItems as := by
  cases as with
  | nil => exact Value.arrange_nil
  | cons a as => rfl

theorem attributes_step (s : Setting) (test : NodeTest) (predicates : List Expr) (places : List Place) :
    (Step.mk .attributes test predicates).eval s places = (do
      let kept ← places.mapM fun p => do
        evalPredicates s predicates (attributeItems (test.picks (← s.attributesAt p)))
      pure (placesAfter false kept.flatten)) := by
  have each : ∀ p, (do evalPredicates s predicates (← s.candidates .attributes test p)) =
      (do evalPredicates s predicates (attributeItems (test.picks (← s.attributesAt p)))) := by
    intro p
    rw [candidates_attributes]
    cases s.attributesAt p with
    | error f => rfl
    | ok as => rfl
  rw [Step.eval,funext each]
  rfl

theorem bare_attributes (s : Setting) (test : NodeTest) (places : List Place) :
    (Step.mk .attributes test []).eval s places =
      (fun rows => (attributeItems (rows.flatMap test.picks)).map Place.item) <$>
        places.mapM s.attributesAt := by
  have each : ∀ p, (do evalPredicates s [] (attributeItems (test.picks (← s.attributesAt p)))) =
      (fun as => attributeItems (test.picks as)) <$> s.attributesAt p := by
    intro p
    cases s.attributesAt p with
    | error f => rfl
    | ok as => rfl
  rw [attributes_step,funext each,mapM_functor]
  cases places.mapM s.attributesAt with
  | error f => rfl
  | ok rows =>
    have items : (rows.map fun as => attributeItems (test.picks as)).flatten =
        attributeItems (rows.flatMap test.picks) := by
      rw [attributeItems,List.map_flatMap,List.flatMap]
      rfl
    change Except.ok (placesAfter false (rows.map fun as => attributeItems (test.picks as)).flatten) = _
    rw [items,placesAfter,arrange_attributeItems]
    rfl

-- The listings where a path arrives, place by place.
def Setting.attributeRows (s : Setting) (origin : Origin) (steps : List Step) (c : Context) :
    Except Failure (List (List Attribute)) := do
  let reached ← evalSteps s steps (← origin.places s c)
  reached.mapM s.attributesAt

theorem picks_any (rows : List (List Attribute)) : rows.flatMap (NodeTest.picks .any) = rows.flatten :=
  List.flatMap_id

theorem picks_name (rows : List (List Attribute)) (name : String) :
    rows.flatMap (NodeTest.picks (.name name)) = rows.filterMap fun as => as.find? (·.name = name) :=
  (List.filterMap_eq_flatMap_toList _ _).symm

theorem unpicked (rows : List (List Attribute)) (name : String) :
    (rows.filterMap fun as => as.find? (·.name = name)) = [] ↔ ∀ a ∈ rows.flatten, a.name ≠ name := by
  simp only [List.filterMap_eq_nil_iff,List.find?_eq_none,decide_eq_true_eq,List.mem_flatten]
  constructor
  · rintro none a ⟨as,listing,member⟩
    exact none as listing a member
  · intro none as listing a member
    exact none a ⟨as,listing,member⟩

theorem attributes_path (s : Setting) (origin : Origin) (steps : List Step) (test : NodeTest) (c : Context) :
    (Expr.path origin (steps ++ [.mk .attributes test []])).eval s c =
      (fun rows => attributeItems (rows.flatMap test.picks)) <$> s.attributeRows origin steps c := by
  rw [Expr.eval,Setting.attributeRows]
  cases origin.places s c with
  | error f => rfl
  | ok places =>
    change (evalSteps s (steps ++ [.mk .attributes test []]) places >>= _) =
      _ <$> (evalSteps s steps places >>= _)
    rw [evalSteps_append]
    cases evalSteps s steps places with
    | error f => rfl
    | ok reached =>
      change ((Step.mk .attributes test []).eval s reached >>= _) >>= _ = _ <$> reached.mapM s.attributesAt
      rw [bare_attributes]
      cases reached.mapM s.attributesAt with
      | error f => rfl
      | ok rows => exact congrArg Except.ok (items_of_places _)

-- By name and all together, along every path: both steps fail alike or read the same listings, one for
-- each place, and a name stands there for the first attribute that has it. Predicates come only after
-- an attribute is picked from its listing.
theorem attribute_steps (s : Setting) :
    (∀ t id name, s.language.Names t id name) ∧
    (∀ test predicates places, (Step.mk .attributes test predicates).eval s places = (do
      let kept ← places.mapM fun p => do
        evalPredicates s predicates (attributeItems (test.picks (← s.attributesAt p)))
      pure (placesAfter false kept.flatten))) ∧
    ∀ origin steps c,
      (Expr.path origin (steps ++ [.mk .attributes .any []])).eval s c =
        (fun rows => attributeItems rows.flatten) <$> s.attributeRows origin steps c ∧
      ∀ name,
        (Expr.path origin (steps ++ [.mk .attributes (.name name) []])).eval s c =
          (fun rows => attributeItems (rows.filterMap fun as => as.find? (·.name = name))) <$>
            s.attributeRows origin steps c ∧
        ((Expr.path origin (steps ++ [.mk .attributes (.name name) []])).eval s c = .ok [] ↔
          ∃ rows, s.attributeRows origin steps c = .ok rows ∧ ∀ a ∈ rows.flatten, a.name ≠ name) := by
  refine ⟨s.language.names,attributes_step s,?_⟩
  intro origin steps c
  have listings := fun test => attributes_path s origin steps test c
  refine ⟨?_,fun name => ?_⟩
  · simpa only [picks_any] using listings .any
  · have named := listings (.name name)
    simp only [picks_name] at named
    refine ⟨named,?_⟩
    rw [named]
    cases s.attributeRows origin steps c with
    | error f => simp
    | ok rows =>
      change Except.ok (attributeItems _) = Except.ok [] ↔ _
      rw [Except.ok.injEq,attributeItems,List.map_eq_nil_iff,unpicked]
      simp only [Except.ok.injEq,exists_eq_left']

end Query
end TreeAudit
