import TreeAudit.Proofs.Query.Filling
import TreeAudit.Proofs.Query.Selection

-- Queries with a literal in place of a variable. Replacing the two tokens of a variable by the one of its
-- literal fills the tokens of a query, so what is read of them is the same.
namespace TreeAudit
open Query

namespace Query
variable {v : Vocabulary} {ts us : List Token} {symbol : Symbol}

theorem filled_same (ended : Ended ts) (written : us.map Token.symbol = ts.map Token.symbol) : Filled v ts us := by
  induction ended generalizing us with
  | last k finish =>
    obtain ⟨other,rfl,equal⟩ := List.map_eq_singleton_iff.mp written
    exact .last k other finish (equal.trans finish)
  | more k some _ ih =>
    obtain ⟨other,us,rfl,equal,later⟩ := List.map_eq_cons_iff.mp written
    exact .same k other some equal (ih later)

theorem Ended.of_cons {k : Token} (ended : Ended (k :: ts)) (more : ts ≠ []) : k.symbol ≠ .finish ∧ Ended ts := by
  cases ended with
  | last _ _ => exact absurd rfl more
  | more _ some later => exact ⟨some,later⟩

theorem filled_once {before after : List Token} {sign k : Token} {name : String} {value : Value}
    (ended : Ended (before ++ sign :: k :: after)) (dollar : sign.symbol = .dollar) (named : k.symbol = .name name)
    (bound : v.bindings.lookup name = some value) (literal : value.print = [symbol])
    (written : us.map Token.symbol = before.map Token.symbol ++ symbol :: after.map Token.symbol) :
    Filled v (before ++ sign :: k :: after) us := by
  induction before generalizing us with
  | nil =>
    obtain ⟨other,us,rfl,equal,later⟩ := List.map_eq_cons_iff.mp written
    obtain ⟨_,inner⟩ := ended.of_cons (List.cons_ne_nil k after)
    cases inner with
    | last _ finish => cases named.symm.trans finish
    | more _ _ ended => exact .literal sign k other dollar named bound (equal ▸ literal) (filled_same ended later)
  | cons first before ih =>
    obtain ⟨other,us,rfl,equal,later⟩ := List.map_eq_cons_iff.mp written
    obtain ⟨some,behind⟩ := Ended.of_cons ended (List.append_ne_nil_of_right_ne_nil before (List.cons_ne_nil _ _))
    exact .same first other some equal (ih behind later)

theorem Alike.agree {x y : Except Failure α} (alike : Alike Eq x y) :
    (∀ a, x = .ok a ↔ y = .ok a) ∧
      ∀ f, (∀ offset problem, f ≠ .badSyntax offset problem) → (x = .error f ↔ y = .error f) := by
  cases alike with
  | read same => exact same ▸ ⟨fun _ => Iff.rfl,fun _ _ => Iff.rfl⟩
  | refused f => exact ⟨fun _ => Iff.rfl,fun _ _ => Iff.rfl⟩
  | misspelt =>
    refine ⟨fun a => by simp,fun f spelt => ⟨?_,?_⟩⟩
    · intro same
      cases same
      exact absurd rfl (spelt _ _)
    · intro same
      cases same
      exact absurd rfl (spelt _ _)

end Query

namespace PathQuery
variable {source filled : String} {l : Language} {bindings : List (String × Value)} {name : String} {value : Value}
  {symbol : Symbol} {ts before after : List Query.Token} {sign k : Query.Token}

-- A query with a variable for a single text or number, and the query with the literal in its place: both
-- compile, to the same expression, or neither does. They fail alike, too, if not for their spelling.
theorem compile_filled (bound : bindings.lookup name = some value) (literal : value.print = [symbol])
    (dollar : sign.symbol = .dollar) (named : k.symbol = .name name)
    (scanned : tokenize source = .ok (before ++ sign :: k :: after)) (written : tokenize filled = .ok ts)
    (replaced : ts.map Query.Token.symbol =
      before.map Query.Token.symbol ++ symbol :: after.map Query.Token.symbol) :
    ((∃ q, compile source l bindings = .ok q) ↔ ∃ q, compile filled l bindings = .ok q) ∧
      (∀ q r, compile source l bindings = .ok q → compile filled l bindings = .ok r → q.expr = r.expr) ∧
      ∀ f, (∀ offset problem, f ≠ .badSyntax offset problem) →
        (compile source l bindings = .error f ↔ compile filled l bindings = .error f) := by
  have ended := (tokensFrom_stand scanned).1
  have both : Filled ⟨l,bindings⟩ (before ++ sign :: k :: after) ts :=
    filled_once ended dollar named bound literal replaced
  obtain ⟨read,refused⟩ := (parse_alike both).agree
  refine ⟨⟨?_,?_⟩,?_,fun f spelt => ?_⟩
  · rintro ⟨q,compiled⟩
    obtain ⟨e,parsed,_⟩ := (compile_ok_iff scanned q).mp compiled
    exact ⟨_,(compile_ok_iff written _).mpr ⟨e,(read e).mp parsed,rfl⟩⟩
  · rintro ⟨q,compiled⟩
    obtain ⟨e,parsed,_⟩ := (compile_ok_iff written q).mp compiled
    exact ⟨_,(compile_ok_iff scanned _).mpr ⟨e,(read e).mpr parsed,rfl⟩⟩
  · intro q r compiled other
    obtain ⟨e,parsed,rfl⟩ := (compile_ok_iff scanned q).mp compiled
    obtain ⟨d,again,rfl⟩ := (compile_ok_iff written r).mp other
    cases ((read e).mp parsed).symm.trans again
    rfl
  · rw [compile_error_iff scanned,compile_error_iff written]
    exact refused f spelt

theorem compile_filled_sample :
    let lang := Java.language.reading .standard
    let bindings := [("part",Value.text "a")]
    let e : Expr := .path .document [Step.downward,.mk .child .any
      [.call (.onTexts "contains" fun s t => occursIn t.toList s.toList) [.focus,.const (Value.text "a")]]]
    compile "//*[contains(.,$part)]" lang bindings = .ok ⟨"//*[contains(.,$part)]","java",e⟩ ∧
      ∃ r, compile "//*[contains(.,'a')]" lang bindings = .ok r ∧ r.expr = e := by
  intro lang bindings e
  let before : List Query.Token := [⟨.doubleSlash,0⟩,⟨.star,2⟩,⟨.leftBracket,3⟩,⟨.name "contains",4⟩,⟨.leftParen,12⟩,
    ⟨.dot,13⟩,⟨.comma,14⟩]
  have scanned : tokenize "//*[contains(.,$part)]" = .ok (before ++ ⟨.dollar,15⟩ :: ⟨.name "part",16⟩ ::
    [⟨.rightParen,20⟩,⟨.rightBracket,21⟩,⟨.finish,22⟩]) := by decide +kernel
  have written : tokenize "//*[contains(.,'a')]" = .ok (before ++ ⟨.string "a",15⟩ ::
    [⟨.rightParen,18⟩,⟨.rightBracket,19⟩,⟨.finish,20⟩]) := by decide +kernel
  have compiled : compile "//*[contains(.,$part)]" lang bindings = .ok ⟨"//*[contains(.,$part)]","java",e⟩ := by
    rw [compile,scanned]
    rfl
  have bound : bindings.lookup "part" = some (Value.text "a") := rfl
  have literal : (Value.text "a").print = [.string "a"] := rfl
  obtain ⟨⟨forth,_⟩,equal,_⟩ := compile_filled (l := lang) bound literal rfl rfl scanned written rfl
  obtain ⟨r,other⟩ := forth ⟨_,compiled⟩
  exact ⟨compiled,r,other,(equal _ r compiled other).symm⟩

end PathQuery
end TreeAudit
