import TreeAudit.Proofs.Query.Comparisons
import TreeAudit.Proofs.Query.Positions
import TreeAudit.Query.Basic

-- Truth in two ways. A value of at most one item is asked for its truth by `boolean`, and compared with
-- `true`. A comparison sees an item without its place in the tree, and so a node that covers no text, which
-- counts as true, is not equal to `true`; on all else the two agree.
namespace TreeAudit.Query

def QueryFunction.truth : QueryFunction := .simple "true" [] .boolean fun _ _ => .ok (Value.truth true)

def QueryFunction.boolean : QueryFunction :=
  .onSequence "boolean" .boolean fun v => do pure (Value.truth (← v.condition))

-- The two ways to ask whether the value of an expression is true.
def Expr.equalsTrue (e : Expr) : Expr := .compare .equal e (.call .truth [])

def Expr.boolean (e : Expr) : Expr := .call .boolean [e]

-- What counts as true among nothing and single items.
def Value.Affirms : Value → Prop
  | [.node _] => True
  | [.text s] => s ≠ ""
  | [.number x] => x.isNaN = false ∧ (x == 0) = false
  | [.truth b] => b = true
  | _ => False

-- A single node that covers no text.
def Value.Textless (t : Tree) (value : Value) : Prop := ∃ id, value = [.node id] ∧ t.text id = ""

variable {t : Tree} {value : Value} {e : Expr} {s : Setting} {c : Context} {l : Language}

theorem truthy_iff (a : Atom) : a.truthy = true ↔ Value.Affirms [.atom a] := by
  cases a with
  | text s => simp [Atom.truthy,Value.Affirms]
  | number x => simp [Atom.truthy,Value.Affirms,and_comm]
  | truth b => rfl

theorem condition_single (few : value.length ≤ 1) :
    ∃ b, value.condition = .ok b ∧ (b = true ↔ value.Affirms) := by
  match value with
  | [] => exact ⟨false,rfl,by simp [Value.Affirms]⟩
  | [.node id] => exact ⟨true,rfl,by simp [Value.Affirms]⟩
  | [.atom a] => exact ⟨a.truthy,rfl,truthy_iff a⟩
  | _ :: _ :: _ => simp at few

theorem equal_true (a : Atom) : Comparison.equal.holds a (.truth true) = a.truthy := by
  have ordered : orderAtoms .equal a (.truth true) = some (orderTruth a.truthy true) := by cases a <;> rfl
  rw [Comparison.holds,ordered]
  cases a.truthy <;> rfl

-- A node is compared by its text.
theorem compare_true (t : Tree) {b : Bool} (few : value.length ≤ 1) (condition : value.condition = .ok b) :
    (¬value.Textless t → Comparison.equal.compare t value (Value.truth true) = b) ∧
      (value.Textless t → b = true ∧ Comparison.equal.compare t value (Value.truth true) = false) := by
  match value with
  | [] =>
    cases condition
    exact ⟨fun _ => rfl,fun ⟨_,other,_⟩ => by cases other⟩
  | [.atom a] =>
    cases condition
    refine ⟨fun _ => ?_,fun ⟨_,other,_⟩ => by cases other⟩
    rw [Value.truth,compare_single]
    exact equal_true a
  | [.node id] =>
    cases condition
    have texts : Comparison.equal.compare t [.node id] (Value.truth true) = !(t.text id).isEmpty := by
      rw [Value.truth,compare_single]
      exact equal_true (.text (t.text id))
    rw [texts]
    constructor
    · intro covers
      rw [Bool.not_eq_true',← Bool.not_eq_true,String.isEmpty_iff]
      exact fun empty => covers ⟨id,rfl,empty⟩
    · rintro ⟨_,same,empty⟩
      cases same
      rw [empty]
      exact ⟨rfl,rfl⟩
  | _ :: _ :: _ => simp at few

theorem function_truth (builtIn : l ∈ Registry.builtIn.languages) (read : PatternReader) :
    (l.reading read).function? "true" = some .truth ∧ (l.reading read).function? "boolean" = some .boolean := by
  rcases List.mem_pair.mp builtIn with rfl | rfl
  · exact ⟨rfl,rfl⟩
  · exact ⟨rfl,rfl⟩

theorem convert_any (value : Value) (t : Tree) (name : String) (index : Nat) :
    (SequenceType.several .any).convert t name index value = .ok value := by
  have each : value.mapM (ItemType.any.convert t name index) = .ok value := by
    induction value with
    | nil => rfl
    | cons i value ih =>
      rw [List.mapM_cons,ih]
      rfl
  rw [← each]
  simp [SequenceType.convert,SequenceType.several]

theorem focusNode_known (inside : c.focus.Inside s.tree) : ∃ focus, s.focusNode c = .ok focus := by
  obtain ⟨focus,position,size⟩ := c
  cases focus with
  | document => exact ⟨none,rfl⟩
  | item i => exact focusNode_inside inside position size

theorem equalsTrue_eval (given : e.eval s c = .ok value) :
    e.equalsTrue.eval s c =
      (fun _ => Value.truth (Comparison.equal.compare s.tree value (Value.truth true))) <$> s.focusNode c := by
  have constant := place_call "true" .boolean (fun _ _ => Value.truth true) s c
  rw [Expr.equalsTrue,Expr.eval,given,QueryFunction.truth,constant]
  cases s.focusNode c <;> rfl

theorem boolean_eval (given : e.eval s c = .ok value) :
    e.boolean.eval s c = s.focusNode c >>= fun _ => Value.truth <$> value.condition := by
  have converted : evalArgs s "boolean" 0 [.several .any] [e] c = .ok [value] := by
    rw [evalArgs,given]
    change (SequenceType.convert _ _ _ _ _ >>= _) = _
    rw [convert_any]
    simp [evalArgs]
    rfl
  rw [Expr.boolean,Expr.eval,Setting.callSite]
  cases s.focusNode c with
  | error f => rfl
  | ok focus =>
    change (evalArgs s "boolean" 0 [.several .any] [e] c >>= _) = _
    rw [converted]
    change (value.condition >>= fun b => pure (Value.truth b)) = Value.truth <$> value.condition
    cases value.condition <;> rfl

-- Where E has a value of at most one item, `E = true()` and `boolean(E)` are the same unless the value is a
-- node without text. That counts as true by itself, but not when it is compared.
theorem truth_compared (builtIn : l ∈ Registry.builtIn.languages) (read : PatternReader) :
    ((l.reading read).function? "true" = some .truth ∧ (l.reading read).function? "boolean" = some .boolean) ∧
      ∀ (e : Expr) (s : Setting) (c : Context) (value : Value), e.eval s c = .ok value → value.length ≤ 1 →
        (c.focus.Inside s.tree → ∃ b, e.boolean.eval s c = .ok (Value.truth b) ∧ (b = true ↔ value.Affirms)) ∧
        (¬value.Textless s.tree → e.equalsTrue.eval s c = e.boolean.eval s c) ∧
        (value.Textless s.tree → ∀ b, e.boolean.eval s c = .ok (Value.truth b) →
          b = true ∧ e.equalsTrue.eval s c = .ok (Value.truth false)) := by
  refine ⟨function_truth builtIn read,fun e s c value given few => ?_⟩
  obtain ⟨b,condition,affirms⟩ := condition_single few
  obtain ⟨agree,differ⟩ := compare_true s.tree few condition
  rw [boolean_eval given,equalsTrue_eval given,condition]
  refine ⟨?_,?_,?_⟩
  · intro inside
    obtain ⟨focus,known⟩ := focusNode_known inside
    rw [known]
    exact ⟨b,rfl,affirms⟩
  · intro covers
    rw [agree covers]
    cases s.focusNode c <;> rfl
  · intro textless other answered
    obtain ⟨focus,known,told⟩ := bind_ok answered
    cases told
    rw [known,(differ textless).2]
    exact ⟨(differ textless).1,rfl⟩

theorem truth_compared_sample :
    let s : Setting := ⟨sample,Java.language⟩
    let c : Context := ⟨.item (.node 1),1,2⟩
    Expr.focus.eval s c = .ok [.node 1] ∧ ¬Value.Textless sample [.node 1] ∧
      Expr.focus.equalsTrue.eval s c = Expr.focus.boolean.eval s c ∧
      ∃ b, Expr.focus.boolean.eval s c = .ok (Value.truth b) ∧ (b = true ↔ Value.Affirms [.node 1]) := by
  intro s c
  have covers : ¬Value.Textless sample [.node 1] := by
    rintro ⟨id,same,empty⟩
    cases same
    revert empty
    decide +kernel
  have inside : c.focus.Inside sample := show 1 < sample.size by decide
  obtain ⟨told,alike,_⟩ := (truth_compared (l := Java.language) List.mem_cons_self .standard).2
    .focus s c [.node 1] rfl (Nat.le_refl 1)
  exact ⟨rfl,covers,alike covers,told inside⟩

-- The root of a source without text.
theorem truth_compared_textless :
    ∃ t, Java.parse "" "A.java" = .tree t ∧
      (∃ q, PathQuery.compile "boolean(/*)" Java.language [] = .ok q ∧
        q.value t Java.language = .ok (Value.truth true)) ∧
      ∃ q, PathQuery.compile "/* = true()" Java.language [] = .ok q ∧
        q.value t Java.language = .ok (Value.truth false) := by
  have asked : tokenize "boolean(/*)" = .ok [⟨.name "boolean",0⟩,⟨.leftParen,7⟩,⟨.slash,8⟩,⟨.star,9⟩,
    ⟨.rightParen,10⟩,⟨.finish,11⟩] := by decide +kernel
  have compared : tokenize "/* = true()" = .ok [⟨.slash,0⟩,⟨.star,1⟩,⟨.equal,3⟩,⟨.name "true",5⟩,
    ⟨.leftParen,9⟩,⟨.rightParen,10⟩,⟨.finish,11⟩] := by decide +kernel
  let root : Expr := .path .document [.mk .child .any []]
  obtain ⟨t,parsed,textless,named⟩ : ∃ t, Java.parse "" "A.java" = .tree t ∧ t.text 0 = "" ∧
      t.language = "java" := ⟨_,rfl,by decide +kernel,rfl⟩
  let s : Setting := ⟨t,Java.language⟩
  have selected : root.eval s Context.document = .ok (Value.ofNodes [0]) :=
    document_step (by decide) rfl rfl rfl (List.pairwise_singleton _ _)
  have evaluated : ∀ (source : String) (e : Expr) (b : Bool), e.eval s Context.document = .ok (Value.truth b) →
      (⟨source,"java",e⟩ : PathQuery).value t Java.language = .ok (Value.truth b) := by
    intro source e b result
    rw [PathQuery.value,named]
    exact result
  refine ⟨t,parsed,⟨⟨"boolean(/*)","java",root.boolean⟩,?_,evaluated _ _ _ ?_⟩,
    ⟨"/* = true()","java",root.equalsTrue⟩,?_,evaluated _ _ _ ?_⟩
  · rw [PathQuery.compile,asked]
    rfl
  · exact boolean_eval selected
  · rw [PathQuery.compile,compared]
    rfl
  · have differs := (@compare_true [.node 0] t true (Nat.le_refl 1) rfl).2 ⟨0,rfl,textless⟩
    rw [equalsTrue_eval selected]
    exact congrArg (fun b => Except.ok (Value.truth b)) differs.2

end TreeAudit.Query
