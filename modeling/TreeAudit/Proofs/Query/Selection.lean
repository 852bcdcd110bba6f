import TreeAudit.Proofs.Query.Evaluation
import TreeAudit.Proofs.Query.Reading
import TreeAudit.Query.Basic
import TreeAudit.Rule.Basic

-- What compiled queries select over a tree, and what rules made of them report.
namespace TreeAudit
open Query

namespace Query
variable {l : Language} {bindings : List (String × Value)} {ts : List Token} {e : Expr}

-- What the reader lets through is dependable, if the function `metric` is allowed to miss its metric.
theorem dependable_of_compiled {allowed : Failure → Prop} (tolerant : Tolerant allowed)
    (builtIn : l ∈ Registry.builtIn.languages)
    (metric : ∀ key, allowed (.badArgument (.unknownMetric key)))
    (compiled : e.Compiled ⟨l,bindings⟩ fun value => ∀ i ∈ value, i.isNode = false) :
    e.Throughout (Expr.Dependable allowed) := by
  refine compiled.mono fun p sound => ?_
  cases p with
  | const value => exact sound
  | call f args =>
    obtain ⟨name,called⟩ := sound
    obtain ⟨g,same,found,counted⟩ := call_sound called
    cases same
    obtain ⟨settled,atomic⟩ := builtIn_types builtIn l.patterns found
    exact ⟨counted,settled,atomic,builtIn_answers tolerant builtIn l.patterns found fun _ => metric⟩
  | _ => trivial

theorem literal_nodeless {value : Value} (literal : value.Literal) : ∀ i ∈ value, i.isNode = false := by
  rcases literal with rfl | ⟨s,rfl⟩ | ⟨x,rfl⟩
  · exact fun i member => absurd member List.not_mem_nil
  · exact List.forall_mem_singleton.mpr rfl
  · exact List.forall_mem_singleton.mpr rfl

end Query

namespace PathQuery
variable {source : String} {l : Language} {bindings : List (String × Value)} {q : PathQuery} {t : Tree}

theorem compile_ok (compiled : compile source l bindings = .ok q) :
    q.language = l.id ∧ ∃ ts, tokenize source = .ok ts ∧ parse ⟨l,bindings⟩ ts = .ok q.expr := by
  obtain ⟨ts,scanned,behind⟩ := bind_ok compiled
  obtain ⟨e,parsed,last⟩ := bind_ok behind
  cases last
  exact ⟨rfl,ts,scanned,parsed⟩

theorem compile_scanned {ts : List Query.Token} (scanned : tokenize source = .ok ts) :
    compile source l bindings = parse ⟨l,bindings⟩ ts >>= fun e => .ok ⟨source,l.id,e⟩ := by
  rw [compile,scanned]
  rfl

theorem compile_ok_iff {ts : List Query.Token} (scanned : tokenize source = .ok ts) (q : PathQuery) :
    compile source l bindings = .ok q ↔ ∃ e, parse ⟨l,bindings⟩ ts = .ok e ∧ q = ⟨source,l.id,e⟩ := by
  rw [compile_scanned scanned,bind_eq_ok]
  refine exists_congr fun e => and_congr_right fun _ => ⟨?_,?_⟩
  · intro same
    cases same
    rfl
  · rintro rfl
    rfl

theorem compile_error_iff {ts : List Query.Token} (scanned : tokenize source = .ok ts) (f : Failure) :
    compile source l bindings = .error f ↔ parse ⟨l,bindings⟩ ts = .error f := by
  rw [compile_scanned scanned]
  cases parse ⟨l,bindings⟩ ts with
  | ok e => simp [bind,Except.bind]
  | error g =>
    constructor
    · intro same
      cases same
      rfl
    · intro same
      cases same
      rfl

theorem compile_compiled {constant : Value → Prop} (plain : ∀ value : Value, value.Literal → constant value)
    (bound : ∀ name value, bindings.lookup name = some value → constant value)
    (compiled : compile source l bindings = .ok q) : q.expr.Compiled ⟨l,bindings⟩ constant := by
  obtain ⟨_,ts,_,parsed⟩ := compile_ok compiled
  exact parse_compiled ⟨plain,fun _ => bound⟩ parsed

-- The nodes that the tree is asked for are its own, so none is dropped on the way.
theorem nodes_of_value {value : Value} (orderly : value.Orderly t) (result : q.value t l = .ok value) :
    q.nodes t l = .ok value.nodeIds := by
  rw [nodes,result]
  refine congrArg Except.ok (List.filter_eq_self.mpr fun id member => ?_)
  exact decide_eq_true (orderly.nodeIds_ascending.2 id member)

-- Every expression of a compiled query has orderly values only, wherever it is evaluated, so that the
-- query selects the nodes of its value in document order and a rule reports each of them once.
theorem selects_in_order (builtIn : l ∈ Registry.builtIn.languages)
    (nodeless : ∀ name value, bindings.lookup name = some value → ∀ i ∈ value, i.isNode = false)
    (compiled : compile source l bindings = .ok q) (built : t.Built) (ours : t.language = l.id) :
    (∀ e : Expr, e.Within q.expr → ∀ c : Context, c.focus.Inside t →
      Ends (Value.Orderly t) (fun f => ∀ id, f ≠ .evaluation (.foreignNode id)) (e.eval ⟨t,l⟩ c)) ∧
    Ends (fun value => q.nodes t l = .ok value.nodeIds ∧ value.nodeIds.Pairwise (· < ·) ∧
        ∀ r : QueryRule, r.query = q →
          r.apply l t = (value.nodeIds.map fun id => ⟨id,r.message⟩,.done))
      (fun f => q.nodes t l = .error f ∧ ∀ id, f ≠ .evaluation (.foreignNode id)) (q.value t l) := by
  have tolerant : Tolerant fun f => ∀ id, f ≠ .evaluation (.foreignNode id) :=
    fun p other id same => by cases same; cases other
  have dependable := dependable_of_compiled tolerant builtIn (fun key id equal => by cases equal)
    (compile_compiled (fun _ => literal_nodeless) nodeless compiled)
  have orderly : ∀ e : Expr, e.Within q.expr → ∀ c : Context, c.focus.Inside t →
      Ends (Value.Orderly t) (fun f => ∀ id, f ≠ .evaluation (.foreignNode id)) (e.eval ⟨t,l⟩ c) :=
    fun e inside => eval_orderly (s := ⟨t,l⟩) tolerant built.wellFormed (dependable.within inside)
  refine ⟨orderly,?_⟩
  have same : q.value t l = q.expr.eval ⟨t,l⟩ Context.document := by
    rw [value,if_neg]
    rw [(compile_ok compiled).1,ours]
    exact fun either => either.elim (fun other => other rfl) fun other => other rfl
  have whole := orderly q.expr .refl Context.document trivial
  rw [← same] at whole
  cases result : q.value t l with
  | error f =>
    refine ⟨?_,whole.failure result⟩
    rw [nodes,result]
    rfl
  | ok value =>
    have listed := nodes_of_value (whole.value result) result
    refine ⟨listed,(whole.value result).nodeIds_ascending.1,fun r made => ?_⟩
    rw [QueryRule.apply,made,listed]

theorem selects_in_order_sample :
    ∃ q, compile "//MethodDeclaration" Java.language [] = .ok q ∧
      q.nodes sample Java.language = .ok [1,3] ∧ [1,3].Pairwise (· < ·) ∧
      QueryRule.apply ⟨"methods",.warning,"here",q⟩ Java.language sample =
        ([⟨1,"here"⟩,⟨3,"here"⟩],.done) := by
  let e : Expr := .path .document [.mk .descendant (.name "MethodDeclaration") []]
  have scanned : tokenize "//MethodDeclaration" =
      .ok [⟨.doubleSlash,0⟩,⟨.name "MethodDeclaration",2⟩,⟨.finish,19⟩] := by decide +kernel
  have compiled : compile "//MethodDeclaration" Java.language [] =
      .ok ⟨"//MethodDeclaration","java",e⟩ := by
    rw [compile,scanned]
    rfl
  have reached : (Setting.mk sample Java.language).candidates .descendant (.name "MethodDeclaration")
      .document = .ok (Value.ofNodes [1,3]) := by decide +kernel
  have selected : (⟨"//MethodDeclaration","java",e⟩ : PathQuery).value sample Java.language =
      .ok (Value.ofNodes [1,3]) := by
    change e.eval ⟨sample,Java.language⟩ Context.document = _
    have arranged : arrange (Value.ofNodes [1,3]) = Value.ofNodes [1,3] := by
      rw [Value.arrange_ofNodes,documentOrder_of_ascending (by decide)]
    simp [e,Expr.eval,Origin.places,evalSteps,Step.eval,reached,evalPredicates,bind,Except.bind,pure,
      Except.pure,placesAfter,Step.keepsDocument,Step.axis,arranged,Place.item?,
      Function.comp_def]
  obtain ⟨_,ends⟩ := selects_in_order (l := Java.language) List.mem_cons_self
    (fun name value none => by cases none) compiled sample_built rfl
  obtain ⟨listed,ascending,reported⟩ := ends.value selected
  rw [Value.nodeIds_ofNodes] at listed ascending reported
  exact ⟨_,compiled,listed,ascending,reported _ rfl⟩

end PathQuery
end TreeAudit
