import TreeAudit.Proofs.Query.Comparisons
import TreeAudit.Proofs.Query.Conjunctions
import TreeAudit.Proofs.Query.Positions
import TreeAudit.Query.Basic

-- Numbers as predicates, and the predicates that compare the position with them. Both keep the same items
-- and fail with the same failure, so long as the items belong to the tree: calling a function looks for the
-- node in focus first, and a node from elsewhere, as only the value of a variable can hold, is not found.
namespace TreeAudit.Query

def Expr.atPosition (e : Expr) : Expr := .compare .equal (.call .position []) e

-- That an expression comes to nothing or to a number if it comes to anything.
def Expr.Figures (s : Setting) (e : Expr) (c : Context) : Prop :=
  ∀ value, e.eval s c = .ok value → value = [] ∨ ∃ x, value = Value.number x

-- That a node was asked for that does not belong to the tree.
def Misses (t : Tree) (x : Except Failure α) : Prop :=
  ∃ id : Nat, ¬id < t.size ∧ x = .error (.evaluation (.foreignNode id))

-- The members of a list that are reached when each is tried after the one before it has passed.
inductive Reached (g : α → Except Failure β) : List α → α → Prop
  | here : Reached g (a :: l) a
  | later (passed : g a = .ok b) (reached : Reached g l c) : Reached g (a :: l) c

-- The contexts in which a predicate is tried on what the predicates before it keep of some items.
def Expr.Tried (s : Setting) (given : Except Failure (List Item)) (before : List Expr) (p : Expr) (c : Context) : Prop :=
  ∃ kept i position, (given >>= evalPredicates s before) = .ok kept ∧ c = ⟨.item i,position,kept.length⟩ ∧
    Reached (tries (p.eval s) kept.length) (kept.zipIdx 1) (i,position)

-- The contexts in which a predicate of a step is tried, place by place.
def Step.Tried (s : Setting) (axis : Axis) (test : NodeTest) (before : List Expr) (p : Expr) (after : List Expr)
    (places : List Place) (c : Context) : Prop :=
  ∃ place, Reached (fun place => s.candidates axis test place >>= evalPredicates s (before ++ p :: after)) places place ∧
    p.Tried s (s.candidates axis test place) before c

section Lists
variable {g h : α → Except Failure β} {l : List α}

theorem mapM_reached (same : ∀ a, Reached g l a → g a = h a) : l.mapM g = l.mapM h := by
  induction l with
  | nil => rfl
  | cons a l ih =>
    rw [List.mapM_cons,List.mapM_cons,← same a .here]
    cases passed : g a with
    | error f => rfl
    | ok b => rw [ih fun c reached => same c (.later passed reached)]

end Lists

theorem Misses.bind {t : Tree} {x : Except Failure α} (misses : Misses t x) (g : α → Except Failure β) :
    Misses t (x >>= g) := by
  obtain ⟨id,outside,rfl⟩ := misses
  exact ⟨id,outside,rfl⟩

section Filtering
variable {s : Setting} {t : Tree} {e : Expr} {given : Except Failure (List Item)} {items : List Item} {before after : List Expr}
  {c : Context} {holds other : Context → Except Failure Value} {size n : Nat} {foreign : Item × Nat → Prop}

theorem filterFrom_reached
    (same : ∀ entry, Reached (tries holds size) (items.zipIdx n) entry → tries holds size entry = tries other size entry) :
    filterFrom holds size n items = filterFrom other size n items := by
  induction items generalizing n with
  | nil => rfl
  | cons i items ih =>
    rw [List.zipIdx_cons] at same
    rw [filterFrom_cons,filterFrom_cons,← same (i,n) .here]
    cases passed : tries holds size (i,n) with
    | error f => rfl
    | ok keep => rw [ih fun entry reached => same entry (.later passed reached)]

-- A filter that is the same up to the first foreign item fails there.
theorem filterFrom_foreign
    (same : ∀ entry, Reached (tries holds size) (items.zipIdx n) entry → ¬foreign entry →
      tries holds size entry = tries other size entry)
    (fails : ∀ entry, foreign entry → Misses t (tries other size entry))
    (reached : Reached (tries holds size) (items.zipIdx n) found) (outside : foreign found) :
    Misses t (filterFrom other size n items) := by
  induction items generalizing n with
  | nil => cases reached
  | cons i items ih =>
    rw [List.zipIdx_cons] at same reached
    rw [filterFrom_cons]
    by_cases first : foreign (i,n)
    · exact (fails _ first).bind _
    · rw [← same _ .here first]
      cases reached with
      | here => exact absurd outside first
      | later passed reached =>
        rw [passed]
        exact (ih (fun entry reached => same entry (.later passed reached)) reached).bind _

theorem position_eval (s : Setting) (c : Context) :
    (Expr.call .position []).eval s c = (fun _ => Value.count c.position) <$> s.focusNode c :=
  place_call "position" .number (fun position _ => Value.count position) s c

theorem focusNode_outside {i : Item} (outside : ¬i.Inside s.tree) (position size : Nat) :
    Misses s.tree (s.focusNode ⟨.item i,position,size⟩) := by
  cases i with
  | node id =>
    have unknown : ¬id < s.tree.size := outside
    exact ⟨id,unknown,by simp [Setting.focusNode,Setting.node,unknown]⟩
  | atom a => exact absurd trivial outside

theorem compare_count (t : Tree) (position : Nat) (x : Float) :
    Comparison.equal.compare t (Value.count position) (Value.number x) = (x == Float.ofNat position) := by
  rw [beq_swap,orderNumbers_beq,Value.count,Value.number,compare_single]
  change Comparison.equal.accepts (orderNumbers (Float.ofNat position) x) = _
  cases orderNumbers (Float.ofNat position) x with
  | none => rfl
  | some o => cases o <;> rfl

theorem tries_atPosition {i : Item} (inside : i.Inside s.tree) (figures : e.Figures s ⟨.item i,n,size⟩) :
    tries (e.eval s) size (i,n) = tries (e.atPosition.eval s) size (i,n) := by
  obtain ⟨focus,found⟩ := focusNode_inside inside n size
  rw [tries,tries,Expr.atPosition,Expr.eval,position_eval,found]
  cases result : e.eval s ⟨.item i,n,size⟩ with
  | error f => rfl
  | ok value =>
    change keeps n value = keeps n (Value.truth (Comparison.equal.compare s.tree (Value.count n) value))
    rcases figures value result with nothing | ⟨x,number⟩
    · rw [nothing]
      rfl
    · rw [number,compare_count]
      rfl

theorem tries_foreign {i : Item} (outside : ¬i.Inside s.tree) :
    Misses s.tree (tries (e.atPosition.eval s) size (i,n)) := by
  obtain ⟨id,unknown,missing⟩ := focusNode_outside outside n size
  refine ⟨id,unknown,?_⟩
  rw [tries,Expr.atPosition,Expr.eval,position_eval,missing]
  rfl

theorem predicates_atPosition (figures : ∀ d, e.Tried s given before d → e.Figures s d)
    (inside : ∀ d, e.Tried s given before d → d.focus.Inside s.tree) :
    given >>= evalPredicates s (before ++ e :: after) = given >>= evalPredicates s (before ++ e.atPosition :: after) := by
  simp only [funext (evalPredicates_append before _),← bind_assoc]
  cases first : given >>= evalPredicates s before with
  | error f => rfl
  | ok kept =>
    have same : filterItems (e.eval s) kept = filterItems (e.atPosition.eval s) kept := by
      apply filterFrom_reached
      intro (i,position) reached
      have tried : e.Tried s given before ⟨.item i,position,kept.length⟩ := ⟨kept,i,position,first,rfl,reached⟩
      exact tries_atPosition (inside _ tried) (figures _ tried)
    change evalPredicates s (e :: after) kept = evalPredicates s (e.atPosition :: after) kept
    rw [evalPredicates,evalPredicates,same]

theorem predicates_foreign (figures : ∀ d, e.Tried s given before d → e.Figures s d) (tried : e.Tried s given before c)
    (outside : ¬c.focus.Inside s.tree) :
    Misses s.tree (given >>= evalPredicates s (before ++ e.atPosition :: after)) := by
  obtain ⟨kept,i,position,first,rfl,reached⟩ := tried
  have fails : Misses s.tree (filterItems (e.atPosition.eval s) kept) := by
    let foreign : Item × Nat → Prop := fun entry => ¬entry.1.Inside s.tree
    have same : ∀ entry, Reached (tries (e.eval s) kept.length) (kept.zipIdx 1) entry → ¬foreign entry →
        tries (e.eval s) kept.length entry = tries (e.atPosition.eval s) kept.length entry := by
      intro (j,place) reached inside
      exact tries_atPosition (not_not.mp inside) (figures _ ⟨kept,j,place,first,rfl,reached⟩)
    exact filterFrom_foreign same (fun _ outside => tries_foreign outside) reached outside
  rw [funext (evalPredicates_append before _),← bind_assoc,first]
  change Misses s.tree (evalPredicates s (e.atPosition :: after) kept)
  rw [evalPredicates]
  exact fails.bind _

theorem Reached.mem {g : α → Except Failure β} {l : List α} {a : α} (reached : Reached g l a) : a ∈ l := by
  induction reached with
  | here => exact List.mem_cons_self
  | later _ _ ih => exact List.mem_cons_of_mem _ ih

theorem step_atPosition (shape : s.tree.WellFormed) {axis : Axis} {test : NodeTest} {places : List Place}
    (figures : ∀ d, Step.Tried s axis test before e after places d → e.Figures s d) :
    (Step.mk axis test (before ++ e :: after)).eval s places =
      (Step.mk axis test (before ++ e.atPosition :: after)).eval s places := by
  have inside : ∀ place d, e.Tried s (s.candidates axis test place) before d → d.focus.Inside s.tree := by
    intro place d ⟨kept,i,position,first,stands,reached⟩
    obtain ⟨items,given,done⟩ := bind_ok first
    have among := List.fst_mem_of_mem_zipIdx reached.mem
    rw [stands]
    exact (candidates_known shape given i ((evalPredicates_sublist done).subset among)).2
  have each : places.mapM (fun place => s.candidates axis test place >>= evalPredicates s (before ++ e :: after)) =
      places.mapM fun place => s.candidates axis test place >>= evalPredicates s (before ++ e.atPosition :: after) := by
    apply mapM_reached
    intro place reached
    exact predicates_atPosition (fun d tried => figures d ⟨place,reached,tried⟩) (inside place)
  have stays : (Step.mk axis test (before ++ e :: after)).keepsDocument places =
      (Step.mk axis test (before ++ e.atPosition :: after)).keepsDocument places := by
    cases before <;> rfl
  rw [Step.eval,Step.eval,each,stays]

end Filtering

-- Where an expression comes to nothing or to a number whenever it is tried, it keeps as a predicate what the
-- comparison of the position with it keeps, or fails as that fails: in every step, and in every filter as
-- far as the items belong to the tree. From the first item on that does not the comparison fails.
theorem positionTests_law (s : Setting) (built : s.tree.Built) :
    (∀ l ∈ Registry.builtIn.languages, ∀ read, (l.reading read).function? "position" = some .position) ∧
    (∀ (e : Expr) before (figure : Expr) after c,
      (∀ d, figure.Tried s (e.eval s c) before d → figure.Figures s d) →
        ((∀ d, figure.Tried s (e.eval s c) before d → d.focus.Inside s.tree) →
          (Expr.filter e (before ++ figure :: after)).eval s c =
            (Expr.filter e (before ++ figure.atPosition :: after)).eval s c) ∧
        ∀ d, figure.Tried s (e.eval s c) before d → ¬d.focus.Inside s.tree →
          Misses s.tree ((Expr.filter e (before ++ figure.atPosition :: after)).eval s c)) ∧
    ∀ (origin : Origin) (steps : List Step) axis test before figure after later c,
      (∀ places d, origin.places s c >>= evalSteps s steps = .ok places →
        Step.Tried s axis test before figure after places d → figure.Figures s d) →
      (Expr.path origin (steps ++ .mk axis test (before ++ figure :: after) :: later)).eval s c =
        (Expr.path origin (steps ++ .mk axis test (before ++ figure.atPosition :: after) :: later)).eval s c := by
  refine ⟨?_,?_,?_⟩
  · intro l builtIn read
    exact (function_place builtIn read).1
  · intro e before figure after c figures
    rw [Expr.eval,Expr.eval]
    constructor
    · intro inside
      exact predicates_atPosition figures inside
    · intro d tried outside
      exact predicates_foreign figures tried outside
  · intro origin steps axis test before figure after later c figures
    rw [Expr.eval,Expr.eval]
    simp only [funext (evalSteps_append steps _),← bind_assoc]
    cases first : origin.places s c >>= evalSteps s steps with
    | error f => rfl
    | ok places =>
      have same := step_atPosition built.wellFormed (figures places · first)
      change (evalSteps s (.mk axis test (before ++ figure :: after) :: later) places >>= _) =
        (evalSteps s (.mk axis test (before ++ figure.atPosition :: after) :: later) places >>= _)
      rw [evalSteps,evalSteps,same]

theorem count_figures (s : Setting) (k : Nat) (c : Context) : (Expr.count k).Figures s c := by
  intro value result
  rw [Expr.count,Expr.eval] at result
  cases result
  exact .inr ⟨_,rfl⟩

-- The second of two methods, as a filter keeps it and as a step selects it, and a node from elsewhere.
theorem positionTests_law_sample :
    let s : Setting := ⟨sample,Java.language⟩
    let methods : Expr := .const (Value.ofNodes [1,3])
    let strange : Expr := .const (Value.ofNodes [99])
    s.tree.Built ∧ (∀ c, (Expr.count 2).Figures s c) ∧
      (∀ c d, (Expr.count 2).Tried s (methods.eval s c) [] d → d.focus.Inside s.tree) ∧
      (∀ c, (Expr.filter methods [.count 2]).eval s c = (Expr.filter methods [(Expr.count 2).atPosition]).eval s c) ∧
      (∀ c, Misses s.tree ((Expr.filter strange [(Expr.count 2).atPosition]).eval s c)) ∧
      ∀ c, (Expr.path .focus [.mk .child .any [.count 2]]).eval s c =
        (Expr.path .focus [.mk .child .any [(Expr.count 2).atPosition]]).eval s c := by
  intro s methods strange
  have inside : ∀ c d, (Expr.count 2).Tried s (methods.eval s c) [] d → d.focus.Inside s.tree := by
    intro c d ⟨kept,i,position,given,stands,reached⟩
    have all : methods.eval s c = .ok (Value.ofNodes [1,3]) := by rw [Expr.eval]
    rw [all] at given
    cases given
    rw [stands]
    have known : ∀ i ∈ Value.ofNodes [1,3], i.Inside sample := by simp [Value.ofNodes,Item.Inside]; decide
    exact known i (List.fst_mem_of_mem_zipIdx reached.mem)
  obtain ⟨_,filters,steps⟩ := positionTests_law s sample_built
  have outside : ∀ c, (Expr.count 2).Tried s (strange.eval s c) [] ⟨.item (.node 99),1,1⟩ := by
    intro c
    rw [Expr.eval]
    exact ⟨Value.ofNodes [99],.node 99,1,rfl,rfl,.here⟩
  refine ⟨sample_built,count_figures s 2,inside,fun c => ?_,fun c => ?_,fun c => ?_⟩
  · exact (filters methods [] (.count 2) [] c fun d _ => count_figures s 2 d).1 (inside c)
  · exact (filters strange [] (.count 2) [] c fun d _ => count_figures s 2 d).2 _ (outside c)
      (show ¬99 < sample.size by decide)
  · exact steps .focus [] .child .any [] (.count 2) [] [] c fun _ d _ _ => count_figures s 2 d

-- A variable that holds a node from elsewhere. The number keeps it; the comparison fails.
theorem positionTests_foreign :
    let s : Setting := ⟨sample,Java.language⟩
    let bindings : List (String × Value) := [("v",Value.ofNodes [99]),("k",Value.count 1)]
    let held : Expr := .const (Value.ofNodes [99])
    (PathQuery.compile "$v[$k]" Java.language bindings = .ok ⟨"$v[$k]","java",.filter held [.count 1]⟩ ∧
      PathQuery.compile "$v[position() = $k]" Java.language bindings =
        .ok ⟨"$v[position() = $k]","java",.filter held [(Expr.count 1).atPosition]⟩) ∧
      (∀ c, (Expr.count 1).eval s c = .ok (Value.number (Float.ofNat 1))) ∧
      (∀ c, (Expr.filter held [.count 1]).eval s c = .ok (Value.ofNodes [99])) ∧
      ∀ c, (Expr.filter held [(Expr.count 1).atPosition]).eval s c = .error (.evaluation (.foreignNode 99)) := by
  intro s bindings held
  have plain : tokenize "$v[$k]" = .ok [⟨.dollar,0⟩,⟨.name "v",1⟩,⟨.leftBracket,2⟩,⟨.dollar,3⟩,⟨.name "k",4⟩,
    ⟨.rightBracket,5⟩,⟨.finish,6⟩] := by decide +kernel
  have compared : tokenize "$v[position() = $k]" = .ok [⟨.dollar,0⟩,⟨.name "v",1⟩,⟨.leftBracket,2⟩,
    ⟨.name "position",3⟩,⟨.leftParen,11⟩,⟨.rightParen,12⟩,⟨.equal,14⟩,⟨.dollar,16⟩,⟨.name "k",17⟩,⟨.rightBracket,18⟩,
    ⟨.finish,19⟩] := by decide +kernel
  refine ⟨⟨?_,?_⟩,fun c => ?_,fun c => ?_,fun c => ?_⟩
  · rw [PathQuery.compile,plain]
    rfl
  · rw [PathQuery.compile,compared]
    rfl
  · rw [Expr.count,Expr.eval]
    rfl
  · rw [Expr.eval,Expr.eval]
    have kept := @evalPredicates_count s (Value.ofNodes [99]) 1 (Decimal.exact_of_le (by decide)) Nat.one_ne_zero
      (.inl (by decide))
    exact kept
  · rw [Expr.eval,Expr.eval]
    rfl

end TreeAudit.Query
