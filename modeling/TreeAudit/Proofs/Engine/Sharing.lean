import TreeAudit.Engine.Sharing
import TreeAudit.Proofs.Engine.Schedules
import TreeAudit.Proofs.Engine.Shares
import TreeAudit.Proofs.Query.Recall
import TreeAudit.Proofs.Registration

-- Rules that share a tree and its memo give what they would give alone. The memo starts out empty, every
-- rule leaves it truthful, and from a truthful memo each rule answers as without one.
namespace TreeAudit

-- The rules that can be told apart from the memo: compiled queries, rules written out that answer in any
-- way whatever, and rules written out that measure on the way, as long as they note what is true.
inductive Rule.Ordinary : Rule → Prop
  | query {q : QueryRule} : PathQuery.compile source l bindings = .ok q.query → l.Steady →
      Ordinary q.toRule
  | native (id language : String) (severity : Severity)
      (apply : Language → Tree → List Finding × RuleEnding) : Ordinary { id, language, severity, apply }
  | measuring {r : Rule} : (∀ l t, l.Steady → Yields (Memo.Truthful l.metrics t) (r.recalled l t) (r.apply l t)) →
      Ordinary r

section Rules
variable {l : Language} {t : Tree} {r : Rule}

theorem Rule.Ordinary.recalls (ordinary : r.Ordinary) (steady : l.Steady) (t : Tree) :
    Yields (Memo.Truthful l.metrics t) (r.recalled l t) (r.apply l t) := by
  cases ordinary with
  | native id language severity apply => exact .pure _ _
  | measuring keeps => exact keeps l t steady
  | query compiled fit =>
    rename_i q
    have nodes := PathQuery.recallNodes_recalls compiled fit steady.metrics t
    change Yields _ (q.recalled l t) (q.apply l t)
    unfold QueryRule.recalled QueryRule.apply
    refine Yields.bind nodes ?_
    cases q.query.nodes t l with
    | ok ids => exact .pure _ _
    | error f => exact .pure _ _

-- The rule with the answer that it gives is taken for the rule itself.
theorem addResult_answering (l : Language) (t : Tree) (file : String) (o : FileOutcome) (place : Nat)
    (r : Rule) : o.addResult l t file place (r.answering (r.apply l t)) = o.addResult l t file place r :=
  rfl

-- The loop over the rules, one rule after the other on one memo.
theorem shareRules_yields (steady : l.Steady) (t : Tree) (file : String) {rules : List Rule}
    (ordinary : ∀ r ∈ rules, r.Ordinary) (o : FileOutcome) (place : Nat) :
    Yields (Memo.Truthful l.metrics t) (Engine.shareRules l t file o place rules)
      (Engine.applyRules l t file o place rules) := by
  induction rules generalizing o place with
  | nil => exact .pure _ o
  | cons r rules ih =>
    obtain ⟨first,rest⟩ := List.forall_mem_cons.mp ordinary
    rw [Engine.shareRules,Engine.applyRules]
    split
    · refine (first.recalls steady t).bind ?_
      rw [addResult_answering]
      exact ih rest _ (place + 1)
    · exact ih rest o (place + 1)

end Rules

namespace Engine
open Schedule
variable {e : Engine} {tasks : List FileTask} {events : List Event}

theorem languageFor_mem {input : SourceInput} {l : Language} (known : e.languageFor input = some l) :
    l ∈ e.registry.languages := by
  unfold languageFor at known
  split at known
  · exact Registry.lookup_mem known
  · obtain ⟨extension,_,found⟩ := Option.bind_eq_some_iff.mp known
    exact Registry.forExtension_mem found

theorem analyzeSharing_eq (steady : ∀ l ∈ e.registry.languages, l.Steady) (ordinary : ∀ r ∈ e.rules, r.Ordinary)
    (input : SourceInput) : e.analyzeSharing input = e.analyze input := by
  unfold analyzeSharing analyze analyzeBy
  dsimp only
  split
  · rfl
  rename_i l known
  split
  · rfl
  split
  · rfl
  · rfl
  rename_i t parsed
  exact (shareRules_yields (steady l (languageFor_mem known)) t input.file ordinary _ 0).fresh
    (Memo.empty_truthful _ t)

theorem performSharing_eq (steady : ∀ l ∈ e.registry.languages, l.Steady)
    (ordinary : ∀ r ∈ e.rules, r.Ordinary) (task : FileTask) : e.performSharing task = e.perform task := by
  cases task with
  | error problem => rfl
  | ok input => exact analyzeSharing_eq steady ordinary input

-- A run on shared trees is a run like any other, whatever the order of its tasks.
theorem runSharing_eq (steady : ∀ l ∈ e.registry.languages, l.Steady)
    (ordinary : ∀ r ∈ e.rules, r.Ordinary) : e.runSharing events tasks = e.runUnder events tasks := by
  have same : e.performSharing = e.perform := funext (performSharing_eq steady ordinary)
  rw [runSharing,same]
  rfl

theorem runSharing_chosen (steady : ∀ l ∈ e.registry.languages, l.Steady)
    (ordinary : ∀ r ∈ e.rules, r.Ordinary) (complete : Complete tasks.length events) :
    e.runSharing events tasks = e.reportOf ((chosen events tasks).map e.perform) :=
  (runSharing_eq steady ordinary).trans (runUnder_chosen e complete)

end Engine

end TreeAudit
