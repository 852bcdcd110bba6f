import TreeAudit.Proofs.Query.Abbreviations
import TreeAudit.Proofs.Query.Positions
import TreeAudit.Proofs.Query.Scanning

-- Positions as they are written: from the text of a query with a number behind a double slash, or behind
-- parentheses, to the nodes that it selects.
namespace TreeAudit
open Decimal (Exact)

namespace Query
variable {test : NodeTest} {k : Nat} {cs : List Char} {symbols : List Symbol}

def NodeTest.text : NodeTest → String
  | .any => "*"
  | .name word => word

def NodeTest.Spellable : NodeTest → Prop
  | .any => True
  | .name word => IsName word

theorem Scans.nodeTest (later : Scans cs symbols) (spellable : test.Spellable)
    (stops : ∀ d ∈ cs.head?, isNamePart d = false ∧ d ≠ ':') :
    Scans (test.text.toList ++ cs) (test.symbol :: symbols) := by
  cases test with
  | any => exact later.sign rfl fun _ => rfl
  | name word => exact later.name spellable stops

-- A number in brackets at the end of a text.
theorem scans_count (exact : Exact k) (nonzero : k ≠ 0) :
    Scans ('[' :: (toString k).toList ++ [']']) (printPredicates [Expr.count k] ++ [.finish]) := by
  have close : Scans [']'] [.rightBracket,.finish] :=
    scans_nil.sign rfl fun _ => rfl
  have number := close.count exact nonzero (by rintro _ ⟨⟩; decide)
  exact number.sign rfl fun _ => rfl

theorem scans_below (spellable : test.Spellable) (exact : Exact k) (nonzero : k ≠ 0) :
    Scans ("//" ++ test.text ++ "[" ++ toString k ++ "]").toList
      (.doubleSlash :: test.symbol :: printPredicates [Expr.count k] ++ [.finish]) := by
  have tested := (scans_count exact nonzero).nodeTest spellable (by rintro _ ⟨⟩; decide)
  simpa [String.toList_append] using tested.doubleSlash

theorem scans_grouped (spellable : test.Spellable) (exact : Exact k) (nonzero : k ≠ 0) :
    Scans ("(//" ++ test.text ++ ")[" ++ toString k ++ "]").toList
      ([.leftParen,.doubleSlash,test.symbol,.rightParen] ++ printPredicates [Expr.count k] ++ [.finish]) := by
  have close : Scans (')' :: '[' :: (toString k).toList ++ [']'])
      (.rightParen :: printPredicates [Expr.count k] ++ [.finish]) :=
    (scans_count exact nonzero).sign rfl fun _ => rfl
  have tested := close.nodeTest spellable (by rintro _ ⟨⟩; decide)
  have opened := tested.doubleSlash.sign (c := '(') rfl fun _ => rfl
  simpa [String.toList_append] using opened

end Query

namespace PathQuery
open Query
variable {source : String} {l : Language} {bindings : List (String × Value)} {q : PathQuery} {t : Tree}
  {e : Expr} {symbols : List Symbol} {k : Nat} {test : NodeTest}

theorem compile_of_scans (scans : Scans source.toList symbols)
    (read : ∀ ts : List Query.Token, ts.map Token.symbol = symbols → parse ⟨l,bindings⟩ ts = .ok e) :
    compile source l bindings = .ok ⟨source,l.id,e⟩ := by
  obtain ⟨ts,found,same⟩ := scans 0
  have scanned : tokenize source = .ok ts := found
  rw [compile,scanned]
  change (parse ⟨l,bindings⟩ ts >>= _) = _
  rw [read ts same]
  rfl

-- That the value of a query over a tree is a sequence of nodes of the tree.
def Selects (q : PathQuery) (t : Tree) (l : Language) (ids : List NodeId) : Prop :=
  q.value t l = .ok (Value.ofNodes ids) ∧ q.nodes t l = .ok ids

theorem selects_of_eval {ids : List NodeId} (ours : t.language = l.id)
    (result : e.eval ⟨t,l⟩ Context.document = .ok (Value.ofNodes ids)) (inside : ∀ id ∈ ids, id < t.size) :
    Selects ⟨source,l.id,e⟩ t l ids := by
  have valued : value ⟨source,l.id,e⟩ t l = .ok (Value.ofNodes ids) := by
    rw [value,if_neg (by simp [ours])]
    exact result
  refine ⟨valued,?_⟩
  rw [nodes,valued]
  change Except.ok ((Value.ofNodes ids).nodeIds.filter _) = _
  rw [Value.nodeIds_ofNodes,List.filter_eq_self.mpr fun id member => decide_eq_true (inside id member)]

-- Behind a double slash a position is counted among the siblings that pass the test, and behind parentheses
-- among all nodes that pass it. Positions are counted as double precision numbers; a tree whose nodes are
-- numbered with 32 bits is far from the size from which on they are not told apart.
theorem positions_law (exact : Exact k) (positive : 1 ≤ k) (spellable : test.Spellable) (l : Language)
    (bindings : List (String × Value)) :
    (∃ q, compile ("//" ++ test.text ++ "[" ++ toString k ++ "]") l bindings = .ok q ∧
      ∀ t : Tree, t.Built → t.language = l.id → k < 2 ^ 53 ∨ t.size ≤ 2 ^ 53 →
        q.Selects t l ((t.matching test).filter fun n => t.matchingBefore test n + 1 = k)) ∧
    ∃ q, compile ("(//" ++ test.text ++ ")[" ++ toString k ++ "]") l bindings = .ok q ∧
      ∀ t : Tree, t.Built → t.language = l.id → k < 2 ^ 53 ∨ t.size ≤ 2 ^ 53 →
        q.Selects t l (t.matching test)[k - 1]?.toList := by
  have nonzero : k ≠ 0 := Nat.one_le_iff_ne_zero.mp positive
  have legible : ∀ p ∈ [Expr.count k], Legible ⟨l,bindings⟩ p :=
    List.forall_mem_singleton.mpr (const_legible (.inr (.inr ⟨_,rfl⟩)))
  have known : ∀ {t : Tree}, ∀ n ∈ t.matching test, n < t.size := fun n member =>
    (Tree.mem_matching.mp member).1
  refine ⟨⟨_,compile_of_scans (scans_below spellable exact nonzero) fun ts => parse_below legible,?_⟩,
    ⟨_,compile_of_scans (scans_grouped spellable exact nonzero) fun ts =>
      parse_grouped (List.cons_ne_nil _ _) legible,?_⟩⟩
  · intro t built ours range
    refine selects_of_eval ours (eval_counted built.wellFormed test exact nonzero range _) fun id member => ?_
    exact known id (List.mem_of_mem_filter member)
  · intro t built ours range
    refine selects_of_eval ours (eval_counted_whole built.wellFormed test exact nonzero range _) fun id member => ?_
    exact known id (List.mem_of_getElem? (Option.mem_toList.mp member))

-- The second method stands second among its siblings, and the second node of all is the first method.
theorem positions_law_sample :
    Exact 2 ∧ (NodeTest.name "MethodDeclaration").Spellable ∧
      (∃ q, compile "//MethodDeclaration[2]" Java.language [] = .ok q ∧ q.Selects sample Java.language [3]) ∧
      (∃ q, compile "//*[2]" Java.language [] = .ok q ∧ q.Selects sample Java.language [3]) ∧
      ∃ q, compile "(//*)[2]" Java.language [] = .ok q ∧ q.Selects sample Java.language [1] := by
  have exact : Exact 2 := Decimal.exact_of_le (by decide)
  have spellable : (NodeTest.name "MethodDeclaration").Spellable :=
    ⟨'M',"ethodDeclaration".toList,rfl,by decide,by decide +kernel⟩
  have small : 2 < 2 ^ 53 ∨ sample.size ≤ 2 ^ 53 := .inl (by decide)
  obtain ⟨⟨q,named,methods⟩,_⟩ := positions_law exact (by decide) spellable Java.language []
  obtain ⟨⟨r,below,second⟩,⟨u,grouped,whole⟩⟩ :=
    @positions_law 2 .any exact (by decide) trivial Java.language []
  have listed : (sample.matching (.name "MethodDeclaration")).filter
      (fun n => sample.matchingBefore (.name "MethodDeclaration") n + 1 = 2) = [3] := by decide +kernel
  have counted : (sample.matching .any).filter (fun n => sample.matchingBefore .any n + 1 = 2) = [3] := by
    decide +kernel
  have placed : (sample.matching .any)[2 - 1]?.toList = [1] := by decide +kernel
  exact ⟨exact,spellable,⟨q,named,listed ▸ methods sample sample_built rfl small⟩,
    ⟨r,below,counted ▸ second sample sample_built rfl small⟩,
    ⟨u,grouped,placed ▸ whole sample sample_built rfl small⟩⟩

end PathQuery
end TreeAudit
