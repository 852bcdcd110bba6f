import TreeAudit.Engine.Basic
import TreeAudit.Languages
import TreeAudit.Proofs.Rule.Entries

-- Engines that are set up from rule sets. Every entry of a set has a fate of its own: it runs as a rule or
-- is refused with an error that names it. Fates come in the order of the entries, and that of an entry
-- depends on nothing but the entry and the languages that are known.
namespace TreeAudit

-- What a text has to be in order to be read as these parts of a rule set.
def RuleSet.Parts.Written (p : RuleSet.Parts) (text : String) : Prop :=
  ∃ document left, Yaml.Document.ofText? text = some document ∧
    (RuleSet.Parts.ofDocument document).run 0 = some (p, left)

theorem RuleSet.ofText?_eq_some {text : String} {s : RuleSet} :
    RuleSet.ofText? text = some s ↔ ∃ p : RuleSet.Parts, p.Written text ∧ s = RuleSet.ofParts p := by
  constructor
  · intro done
    obtain ⟨document,read,done⟩ := Option.bind_eq_some_iff.mp done
    obtain ⟨⟨p,left⟩,parts,same⟩ := Option.bind_eq_some_iff.mp done
    exact ⟨p,⟨document,left,read,parts⟩,(Option.some.inj same).symm⟩
  · rintro ⟨p,⟨document,left,read,parts⟩,rfl⟩
    exact Option.bind_eq_some_iff.mpr ⟨document,read,Option.bind_eq_some_iff.mpr ⟨(p,left),parts,rfl⟩⟩

def RuleSet.Parts.raw (p : RuleSet.Parts) : List Yaml.Value := p.rules.getD []

-- The parts with another value at a place.
def RuleSet.Parts.change (p : RuleSet.Parts) (i : Nat) (w : Yaml.Value) : RuleSet.Parts :=
  { p with rules := some (p.raw.set i w) }

-- The entries of raw values: each at its place, and defined exactly if the value is written as a rule whose id
-- no entry defined before it has.
structure RuleSet.Lists (s : RuleSet) (raw : List Yaml.Value) : Prop where
  length : s.rules.length = raw.length
  defined : ∀ (i : Nat) (v : Yaml.Value) (d : RuleDefinition), raw[i]? = some v →
    (s.rules[i]? = some (.defined d) ↔ RuleDefinition.Describes v d ∧
      ∀ j < i, ∀ other, s.rules[j]? = some (.defined other) → other.id ≠ d.id)

theorem RuleSet.ofParts_lists (p : RuleSet.Parts) : (RuleSet.ofParts p).Lists p.raw := by
  refine ⟨RuleSet.entriesFrom_length [] 0 _,fun i v d stands => ?_⟩
  rw [← RuleDefinition.ofValue_ok]
  refine (RuleSet.entriesFrom_defined stands).trans (and_congr_right fun _ => ?_)
  rw [and_iff_right List.not_mem_nil]
  rfl

namespace Engine

inductive Fate
  | running (r : Rule)
  | refused (error : ConfigurationError)

def Fate.rules : Fate → List Rule
  | running r => [r]
  | refused _ => []

def Fate.errors : Fate → List ConfigurationError
  | running _ => []
  | refused error => [error]

-- The fate of an entry where these languages are known.
inductive Settles (registry : Registry) : RuleEntry → Fate → Prop
  | malformed {id : String} {problem : RuleProblem} :
      Settles registry (.rejected id problem) (.refused ⟨id, problem.message⟩)
  | foreign : registry.lookup? d.language = none →
      Settles registry (.defined d) (.refused ⟨d.id, unknownLanguage d.language⟩)
  | failing : registry.lookup? d.language = some l → d.compile l = .error f →
      Settles registry (.defined d) (.refused ⟨d.id, f.message⟩)
  | running : registry.lookup? d.language = some l → d.compile l = .ok r →
      Settles registry (.defined d) (.running r.toRule)

-- The engine to which entries with these fates were added.
def settled (e : Engine) (fates : List Fate) : Engine :=
  { e with
    rules := e.rules ++ fates.flatMap Fate.rules
    setupErrors := e.setupErrors ++ fates.flatMap Fate.errors }

-- What becomes of entries that are added to an engine, one after the other.
structure Accounts (e : Engine) (entries : List RuleEntry) (fates : List Fate) (next : Engine) : Prop where
  each : List.Forall₂ (Settles e.registry) entries fates
  named : List.Forall₂ (fun entry fate => ∀ error ∈ fate.errors, error.rule = entry.id) entries fates
  gains : next = e.settled fates

section Fates
variable {registry : Registry} {entry : RuleEntry} {fate other : Fate} {entries : List RuleEntry}
  {fates : List Fate} {e : Engine} {j : Nat}

theorem Settles.unique (one : Settles registry entry fate) (two : Settles registry entry other) :
    fate = other := by
  cases one with
  | malformed =>
    cases two
    rfl
  | foreign unknown | failing known failed | running known compiled => cases two <;> simp_all

-- An entry is refused under its own id.
theorem Settles.named (settles : Settles registry entry fate) : ∀ error ∈ fate.errors, error.rule = entry.id := by
  intro error member
  cases settles with
  | running known compiled => cases member
  | malformed | foreign unknown | failing known failed =>
    rw [List.mem_singleton.mp member]
    rfl

theorem settles_at (each : List.Forall₂ (Settles registry) entries fates) (there : entries[j]? = some entry) :
    ∃ fate, fates[j]? = some fate ∧ Settles registry entry fate := by
  induction each generalizing j with
  | nil => cases there
  | cons first _ ih =>
    cases j with
    | zero =>
      cases there
      exact ⟨_,rfl,first⟩
    | succ j => exact ih there

theorem settled_running (e : Engine) (r : Rule) :
    e.settled [.running r] = { e with rules := e.rules ++ [r] } := by
  simp [settled,Fate.rules,Fate.errors]

theorem settled_refused (e : Engine) (rule detail : String) :
    e.settled [.refused ⟨rule, detail⟩] = e.reject rule detail := by
  simp [settled,reject,Fate.rules,Fate.errors]

theorem settled_cons (e : Engine) (fate : Fate) (fates : List Fate) :
    (e.settled [fate]).settled fates = e.settled (fate :: fates) := by
  simp [settled]

theorem addEntry_settles (e : Engine) (entry : RuleEntry) :
    ∃ fate, Settles e.registry entry fate ∧ e.addEntry entry = e.settled [fate] := by
  cases entry with
  | rejected id problem => exact ⟨_,.malformed,(settled_refused e id problem.message).symm⟩
  | defined d =>
    rw [addEntry,addDefinition]
    cases known : e.registry.lookup? d.language with
    | none => exact ⟨_,.foreign known,(settled_refused e _ _).symm⟩
    | some l =>
      dsimp only
      cases compiled : d.compile l with
      | ok r => exact ⟨_,.running known compiled,(settled_running e _).symm⟩
      | error f => exact ⟨_,.failing known compiled,(settled_refused e _ _).symm⟩

theorem foldl_addEntry (e : Engine) (entries : List RuleEntry) :
    ∃ fates, List.Forall₂ (Settles e.registry) entries fates ∧ entries.foldl addEntry e = e.settled fates := by
  induction entries generalizing e with
  | nil => exact ⟨[],.nil,by simp [settled]⟩
  | cons entry entries ih =>
    obtain ⟨fate,first,one⟩ := addEntry_settles e entry
    obtain ⟨fates,rest,all⟩ := ih (e.settled [fate])
    refine ⟨fate :: fates,.cons first rest,?_⟩
    rw [List.foldl_cons,one,all,settled_cons]

theorem addRuleSet_accounts (e : Engine) (s : RuleSet) :
    ∃ fates, e.Accounts s.rules fates (e.addRuleSet s) := by
  obtain ⟨fates,each,gains⟩ := foldl_addEntry e s.rules
  exact ⟨fates,each,each.imp fun _ _ settles => settles.named,gains⟩

-- An entry has the same fate wherever it stands.
theorem fate_kept {changed : List RuleEntry} {others : List Fate} {i : Nat}
    (each : List.Forall₂ (Settles registry) entries fates)
    (every : List.Forall₂ (Settles registry) changed others) (there : entries[i]? = some entry)
    (kept : changed[j]? = some entry) : others[j]? = fates[i]? := by
  obtain ⟨fate,stands,settles⟩ := settles_at each there
  obtain ⟨other,also,same⟩ := settles_at every kept
  rw [stands,also,settles.unique same]

end Fates

-- Rule sets that are added to engines. Each raw value has an entry at its place; it is defined exactly if
-- the value is written as a rule whose id no entry defined before it has. Each entry has one fate, in order,
-- and the engine gains these alone. A value that is no rule, put in the place of another, leaves the entries
-- of other ids and their fates as they are.
theorem ruleSet_accounted (e : Engine) :
    (∀ text s, RuleSet.ofText? text = some s ↔ ∃ p : RuleSet.Parts, p.Written text ∧ s = RuleSet.ofParts p) ∧
    ∀ p : RuleSet.Parts, (RuleSet.ofParts p).Lists p.raw ∧
      ∃ fates, e.Accounts (RuleSet.ofParts p).rules fates (e.addRuleSet (RuleSet.ofParts p)) ∧
        ∀ (i : Nat) (old : RuleEntry) (w : Yaml.Value), (RuleSet.ofParts p).rules[i]? = some old →
          (∀ d, ¬RuleDefinition.Describes w d) →
          ∃ others, e.Accounts (RuleSet.ofParts (p.change i w)).rules others
              (e.addRuleSet (RuleSet.ofParts (p.change i w))) ∧
            ∀ (j : Nat) (entry : RuleEntry), j ≠ i → (RuleSet.ofParts p).rules[j]? = some entry →
              entry.id ≠ old.id →
              (RuleSet.ofParts (p.change i w)).rules[j]? = some entry ∧ others[j]? = fates[j]? := by
  refine ⟨fun text s => RuleSet.ofText?_eq_some,fun p => ⟨RuleSet.ofParts_lists p,?_⟩⟩
  obtain ⟨fates,accounts⟩ := addRuleSet_accounts e (RuleSet.ofParts p)
  refine ⟨fates,accounts,fun i old w before bad => ?_⟩
  obtain ⟨others,changed⟩ := addRuleSet_accounts e (RuleSet.ofParts (p.change i w))
  refine ⟨others,changed,fun j entry elsewhere there apart => ?_⟩
  have none : ∀ d, RuleDefinition.ofValue w ≠ .ok d := fun d read => bad d ((RuleDefinition.ofValue_ok w d).mp read)
  have kept : (RuleSet.ofParts (p.change i w)).rules[j]? = some entry :=
    RuleSet.entriesFrom_set none before elsewhere there apart
  exact ⟨kept,fate_kept accounts.each changed.each there kept⟩

def sampleValue (id : String) : Yaml.Value :=
  .mapping [(.string "id", .string id),(.string "language", .string "java"),(.string "message", .string "found"),
    (.string "query", .string "//*")]

def sampleParts : RuleSet.Parts where
  rules := some [sampleValue "first",sampleValue "first",sampleValue "second"]

-- Two rules with one id and a third one, whose fate does not change when the first is taken away.
theorem ruleSet_accounted_sample :
    let e : Engine := { registry := .builtIn }
    let p := sampleParts
    ∃ fates others old entry, (RuleSet.ofParts p).rules[0]? = some (.defined old) ∧
      (RuleSet.ofParts p).rules[2]? = some (.defined entry) ∧ (∀ d, ¬RuleDefinition.Describes .null d) ∧
      e.Accounts (RuleSet.ofParts p).rules fates (e.addRuleSet (RuleSet.ofParts p)) ∧
      e.Accounts (RuleSet.ofParts (p.change 0 .null)).rules others
        (e.addRuleSet (RuleSet.ofParts (p.change 0 .null))) ∧
      (RuleSet.ofParts (p.change 0 .null)).rules[2]? = some (.defined entry) ∧ others[2]? = fates[2]? := by
  intro e p
  have bad : ∀ d, ¬RuleDefinition.Describes .null d := by
    rintro d ⟨whole,_⟩
    cases whole
  obtain ⟨_,fates,accounts,changes⟩ := (ruleSet_accounted e).2 p
  obtain ⟨others,changed,kept⟩ := changes 0 _ .null rfl bad
  have same := kept 2 _ (by decide) rfl (by decide)
  exact ⟨fates,others,_,_,rfl,rfl,bad,accounts,changed,same.1,same.2⟩

end Engine

end TreeAudit
