import TreeAudit.Proofs.Query.Headway
import TreeAudit.Proofs.Query.Selection

-- What a mistake in the spelling of a query is blamed on. The message names a token; the offset in it is the
-- one of that token, except that a missing name is reported at the token behind the one in its place.
namespace TreeAudit
open Query

namespace Query
variable {l : Language} {f : QueryFunction} {name : String} {args : List Expr} {failure : Failure}

-- Literals that do not pass the check of a function are no mistakes of spelling.
theorem coreFunctions_check (read : PatternReader) :
    ∀ f ∈ coreFunctions read, ∀ check ∈ f.check, ∀ literals metrics,
      Ends (fun _ => True) (∃ p, · = .badArgument p) (check literals metrics) := by
  simp only [coreFunctions,List.forall_mem_cons,List.not_mem_nil,false_implies,implies_true,and_true]
  refine ⟨?_,?_,?_,?_,?_,?_,?_,?_,?_,?_,?_,?_,?_,?_,?_,?_,?_,?_,?_,?_⟩
  all_goals
    intro check given literals metrics
    cases given
  -- Only the literals of `matches` and `metric` are checked.
  all_goals
    dsimp only
    split
    · split
      · trivial
      · exact ⟨_,rfl⟩
    · trivial

theorem builtIn_check (builtIn : l ∈ Registry.builtIn.languages) (read : PatternReader)
    (found : (l.reading read).function? name = some f) :
    ∀ check ∈ f.check, ∀ literals metrics,
      Ends (fun _ => True) (∃ p, · = .badArgument p) (check literals metrics) := by
  have own : ∀ l ∈ Registry.builtIn.languages, ∀ f ∈ l.functions, f.check = none := by
    decide
  rcases function_mem found with known | core
  · intro check given
    cases (own l builtIn f known).symm.trans given
  · exact coreFunctions_check read f core

theorem call_not_misspelt {bindings : List (String × Value)} {offset : Nat} {problem : SyntaxProblem}
    (builtIn : l ∈ Registry.builtIn.languages) (read : PatternReader) :
    Vocabulary.call ⟨l.reading read,bindings⟩ name args ≠ .error (.badSyntax offset problem) := by
  unfold Vocabulary.call
  split
  · simp
  · rename_i f found
    split
    · simp
    · split
      · rename_i check given
        have ends := builtIn_check builtIn read found check given (args.map Expr.literal?) (l.reading read).metrics
        intro failed
        cases passed : check (args.map Expr.literal?) (l.reading read).metrics with
        | error f =>
          obtain ⟨p,rfl⟩ := ends.failure passed
          rw [passed] at failed
          cases failed
        | ok _ =>
          rw [passed] at failed
          cases failed
      · simp

end Query

namespace PathQuery
variable {source : String} {l : Language} {bindings : List (String × Value)} {ts : List Query.Token} {offset : Nat}
  {problem : SyntaxProblem} {found : Symbol}

-- A message that names a token names one of the source. Where no name is missing, its offset is the number of
-- bytes before that token; where one is, the number of bytes before the next token, if there is one.
theorem misspelt_token (builtIn : l ∈ Registry.builtIn.languages) (read : PatternReader)
    (scanned : tokenize source = .ok ts)
    (failed : compile source (l.reading read) bindings = .error (.badSyntax offset problem))
    (named : problem.found? = some found) :
    (∀ k ∈ ts, k.StandsIn 0 source.toList) ∧ ∃ before k after, ts = before ++ k :: after ∧ k.symbol = found ∧
      offset = (if problem.isLate then after.head?.getD k else k).offset := by
  obtain ⟨ended,stand⟩ := tokensFrom_stand scanned
  refine ⟨stand,?_⟩
  have refused := parse_refused ended ((compile_error_iff scanned _).mp failed)
  cases refused with
  | call refusal => exact absurd refusal (call_not_misspelt builtIn read)
  | misspelt _ blames => exact blames found named

theorem misspelt_token_sample :
    let ts : List Query.Token := [⟨.name "a",0⟩,⟨.name "b",2⟩,⟨.finish,3⟩]
    tokenize "a b" = .ok ts ∧
      compile "a b" (Java.language.reading .standard) [] = .error (.badSyntax 2 (.unexpected (.name "b"))) ∧
      (∀ k ∈ ts, k.StandsIn 0 "a b".toList) ∧
      ∃ before k after, ts = before ++ k :: after ∧ k.symbol = .name "b" ∧ 2 = k.offset := by
  intro ts
  have scanned : tokenize "a b" = .ok ts := by decide +kernel
  have failed : compile "a b" (Java.language.reading .standard) [] =
      .error (.badSyntax 2 (.unexpected (.name "b"))) := by
    rw [compile,scanned]
    rfl
  exact ⟨scanned,failed,misspelt_token (l := Java.language) List.mem_cons_self .standard scanned failed rfl⟩

-- A bracket where a name is missing: the offset is that of what stands behind the bracket.
theorem misspelt_token_behind :
    ¬ ∀ source ts offset problem found, tokenize source = .ok ts →
      compile source (Java.language.reading .standard) [] = .error (.badSyntax offset problem) →
      problem.found? = some found → ∃ k ∈ ts, k.symbol = found ∧ offset = k.offset := by
  intro always
  let ts : List Query.Token := [⟨.name "a",0⟩,⟨.slash,1⟩,⟨.leftBracket,2⟩,⟨.name "b",3⟩,⟨.rightBracket,4⟩,⟨.finish,5⟩]
  have scanned : tokenize "a/[b]" = .ok ts := by decide +kernel
  have failed : compile "a/[b]" (Java.language.reading .standard) [] =
      .error (.badSyntax 3 (.expected .nameTest .leftBracket)) := by
    rw [compile,scanned]
    rfl
  obtain ⟨k,member,same,place⟩ := always _ _ _ _ _ scanned failed rfl
  have elsewhere : ∀ k ∈ ts, k.symbol = .leftBracket → 3 ≠ k.offset := by decide
  exact elsewhere k member same place

end PathQuery
end TreeAudit
