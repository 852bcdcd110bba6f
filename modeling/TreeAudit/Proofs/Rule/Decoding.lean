import Mathlib.Data.List.Forall2
import Mathlib.Data.List.Induction
import Mathlib.Data.List.Sort
import Mathlib.Data.List.TakeWhile
import Mathlib.Data.String.Basic
import TreeAudit.Proofs.Query.Outcome
import TreeAudit.Rule.Definition

-- Which values are rules. What is written is told by the texts of the keys, so that keys with tags count
-- too; only the properties are looked for under the plain key. A rule is read exactly where every field
-- is given as it has to be, and then it is the rule that was described.
namespace TreeAudit

namespace RuleDefinition
open Yaml RuleFields
open Query (bind_eq_ok)

abbrev Entries := List (Value × Value)

-- The values under a name.
def under (entries : Entries) (name : String) : List Value :=
  (entries.filter fun e => e.1.text? = some name).map Prod.snd

def isProperties : Value × Value → Bool
  | (.string s, _) => s = "properties"
  | _ => false

def Letter (c : Char) : Prop := 'A' ≤ c ∧ c ≤ 'Z' ∨ 'a' ≤ c ∧ c ≤ 'z'

-- A letter, and behind it letters, digits, underscores and hyphens.
def Identifies (s : String) : Prop :=
  ∃ c cs, s.toList = c :: cs ∧ Letter c ∧ ∀ x ∈ cs, Letter x ∨ '0' ≤ x ∧ x ≤ '9' ∨ x = '_' ∨ x = '-'

-- A text that is given once under a name.
def Says (entries : Entries) (name s : String) : Prop :=
  ∃ v, under entries name = [v] ∧ v.text? = some s

inductive Rates : List Value → Severity → Prop
  | absent : Rates [] .warning
  | named : Severity.named? name = some s → Rates [.string name] s
  | tagged : Severity.named? name = some s → v.untag = .null → Rates [.tagged name v] s

inductive Explains : List Value → Option String → Prop
  | absent : Explains [] none
  | null : Explains [.null] none
  | text : v.text? = some s → Explains [v] (some s)

-- What the fields of a rule say, apart from the properties.
structure Tells (entries : Entries) (d : RuleDefinition) : Prop where
  keys : ∀ e ∈ entries, ∃ key, e.1.text? = some key
  id : Says entries "id" d.id
  language : Says entries "language" d.language
  message : Says entries "message" d.message
  query : Says entries "query" d.query
  severity : Rates (under entries "severity") d.severity
  description : Explains (under entries "description") d.description

-- An entry of the properties: a plain name, and a text, a number or a truth value.
def Gives (e : Value × Value) (p : String × Atom) : Prop :=
  e.1 = .string p.1 ∧ propertyValue? e.2 = some p.2

-- What the properties come to: by name in order, each with the value that was given last.
structure Collects (given properties : List (String × Atom)) : Prop where
  last : ∀ name, properties.lookup name = given.reverse.lookup name
  ordered : properties.Pairwise fun p q => p.1 < q.1

inductive Carries : Option Value → List (String × Atom) → Prop
  | absent : Carries none []
  | null : Carries (some .null) []
  | mapping : List.Forall₂ Gives entries given →
      Collects given collected → Carries (some (.mapping entries)) collected

-- A mapping that is written as a rule.
inductive Describes : Value → RuleDefinition → Prop
  | rule : v.untag = .mapping all → Tells (all.filter fun e => !isProperties e) d → Identifies d.id →
      (∃ c ∈ d.query.toList, Unicode.isBlank c = false) →
      Carries ((all.find? isProperties).map Prod.snd) d.properties → Describes v d

section Fields

-- One field: it stays as it was if nothing stands under its name, and is read if one value does.
inductive Field (read : Value → Except RuleProblem α) : Option α → List Value → Option α → Prop
  | kept : Field read x [] x
  | given : read v = .ok a → Field read none [v] (some a)

@[mk_iff]
structure Extends (f : RuleFields) (entries : Entries) (g : RuleFields) : Prop where
  keys : ∀ e ∈ entries, ∃ key, e.1.text? = some key
  id : Field readText f.id (under entries "id") g.id
  language : Field readText f.language (under entries "language") g.language
  message : Field readText f.message (under entries "message") g.message
  severity : Field readSeverity f.severity (under entries "severity") g.severity
  description : Field readDescription f.description (under entries "description") g.description
  query : Field readText f.query (under entries "query") g.query

variable {read : Value → Except RuleProblem α} {x y : Option α} {v : Value} {vs : List Value}
  {entries : Entries} {f g : RuleFields} {e : Value × Value} {key name : String}

theorem field_nil : Field read x [] y ↔ y = x := by
  constructor
  · intro field
    cases field with
    | kept => rfl
  · rintro rfl
    exact .kept

theorem field_cons : Field read x (v :: vs) y ↔ x = none ∧ ∃ a, read v = .ok a ∧ Field read (some a) vs y := by
  constructor
  · intro field
    cases field with
    | given done => exact ⟨rfl,_,done,.kept⟩
  · rintro ⟨rfl,a,done,field⟩
    cases field with
    | kept => exact .given done

theorem under_cons (keyed : e.1.text? = some key) :
    under (e :: entries) name = if key = name then e.2 :: under entries name else under entries name := by
  unfold under
  rw [List.filter_cons,keyed]
  by_cases same : key = name
  · simp [same]
  · simp [same]

theorem once_bind {read : Except RuleProblem α} {set : Option α → RuleFields}
    {next : RuleFields → Except RuleProblem RuleFields} :
    once name x read set >>= next = .ok g ↔
      x = none ∧ ∃ a, read = .ok a ∧ next (set (some a)) = .ok g := by
  constructor
  · intro done
    cases x with
    | some a => cases done
    | none =>
      cases read with
      | error p => cases done
      | ok a => exact ⟨rfl,a,rfl,done⟩
  · rintro ⟨rfl,a,rfl,done⟩
    exact done

theorem extends_nil : Extends f [] g ↔ g = f := by
  constructor
  · rintro ⟨_,id,language,message,severity,description,query⟩
    cases f
    cases g
    simp only [under,List.filter_nil,List.map_nil,field_nil] at id language message severity description query
    subst id language message severity description query
    rfl
  · rintro rfl
    exact ⟨fun e member => absurd member List.not_mem_nil,.kept,.kept,.kept,.kept,.kept,.kept⟩

theorem extends_cons (keyed : e.1.text? = some key) : Extends f (e :: entries) g ↔
    (∀ e ∈ entries, ∃ key, e.1.text? = some key) ∧
    Field readText f.id (if key = "id" then e.2 :: under entries "id" else under entries "id") g.id ∧
    Field readText f.language
      (if key = "language" then e.2 :: under entries "language" else under entries "language") g.language ∧
    Field readText f.message
      (if key = "message" then e.2 :: under entries "message" else under entries "message") g.message ∧
    Field readSeverity f.severity
      (if key = "severity" then e.2 :: under entries "severity" else under entries "severity") g.severity ∧
    Field readDescription f.description (if key = "description" then e.2 :: under entries "description"
      else under entries "description") g.description ∧
    Field readText f.query
      (if key = "query" then e.2 :: under entries "query" else under entries "query") g.query := by
  simp only [← under_cons keyed]
  constructor
  · rintro ⟨keys,id,language,message,severity,description,query⟩
    exact ⟨(List.forall_mem_cons.mp keys).2,id,language,message,severity,description,query⟩
  · rintro ⟨keys,id,language,message,severity,description,query⟩
    exact ⟨List.forall_mem_cons.mpr ⟨⟨key,keyed⟩,keys⟩,id,language,message,severity,description,query⟩

-- One entry, whatever is read behind it. Each known name reads the field of its own and leaves the others.
theorem readEntry_step {next : RuleFields → Except RuleProblem RuleFields}
    (behind : ∀ f, next f = .ok g ↔ Extends f entries g) (f : RuleFields) (e : Value × Value) :
    readEntry f e >>= next = .ok g ↔ Extends f (e :: entries) g := by
  cases keyed : e.1.text? with
  | none =>
    constructor
    · intro done
      rw [readEntry,keyed] at done
      cases done
    · rintro ⟨keys,_⟩
      obtain ⟨_,other⟩ := keys e List.mem_cons_self
      rw [keyed] at other
      cases other
  | some key =>
    rw [extends_cons keyed]
    unfold readEntry
    simp only [keyed]
    split
    case h_1 none => cases none
    case h_8 same =>
      cases same
      change next f = .ok g ↔ _
      rw [behind,extends_iff]
      grind
    all_goals
      rename_i same
      cases same
      simp only [once_bind,behind,field_cons,extends_iff,reduceIte,String.reduceEq]
      grind

theorem foldlM_readEntry (entries : Entries) (f g : RuleFields) :
    entries.foldlM readEntry f = .ok g ↔ Extends f entries g := by
  induction entries generalizing f with
  | nil =>
    rw [extends_nil]
    exact ⟨fun done => (Except.ok.inj done).symm,fun same => same ▸ rfl⟩
  | cons e entries ih =>
    rw [List.foldlM_cons]
    exact readEntry_step ih f e

theorem need_ok {o : Option String} {s : String} : need name o = .ok s ↔ o = some s := by
  cases o <;> simp [need]

theorem complete_ok {d : RuleDefinition} : f.complete = .ok d ↔
    f.id = some d.id ∧ f.language = some d.language ∧ f.message = some d.message ∧ f.query = some d.query ∧
      f.severity.getD .warning = d.severity ∧ f.description.join = d.description ∧ d.properties = [] := by
  simp only [complete,bind_eq_ok,need_ok]
  constructor
  · rintro ⟨_,id,_,language,_,message,_,query,last⟩
    cases last
    exact ⟨id,language,message,query,rfl,rfl,rfl⟩
  · rintro ⟨id,language,message,query,severity,description,properties⟩
    refine ⟨_,id,_,language,_,message,_,query,?_⟩
    rw [severity,description]
    cases d
    cases properties
    rfl

theorem readText_ok {s : String} : readText v = .ok s ↔ v.text? = some s := by
  unfold readText
  cases v.text? <;> simp

theorem severityNamed_ok {s : Severity} : severityNamed name = .ok s ↔ Severity.named? name = some s := by
  unfold severityNamed
  cases Severity.named? name <;> simp

theorem readSeverity_ok {s : Severity} : readSeverity v = .ok s ↔ Rates [v] s := by
  constructor
  · intro done
    unfold readSeverity at done
    split at done
    · exact .named (severityNamed_ok.mp done)
    · obtain ⟨a,known,behind⟩ := bind_eq_ok.mp done
      split at behind
      · rename_i bare
        cases behind
        exact .tagged (severityNamed_ok.mp known) bare
      · cases behind
    · cases done
  · intro rates
    cases rates with
    | named known => exact severityNamed_ok.mpr known
    | tagged known bare =>
      rw [readSeverity,severityNamed_ok.mpr known,bare]
      rfl

theorem readDescription_ok {x : Option String} : readDescription v = .ok x ↔ Explains [v] x := by
  constructor
  · intro done
    unfold readDescription at done
    split at done
    · cases done
      exact .null
    · cases read : readText v with
      | error p =>
        rw [read] at done
        cases done
      | ok s =>
        rw [read] at done
        cases done
        exact .text (readText_ok.mp read)
  · intro explains
    cases explains with
    | null => rfl
    | @text _ s spelt =>
      unfold readDescription
      split
      · cases spelt
      · rw [readText_ok.mpr spelt]
        rfl

theorem says_iff {s : String} : Field readText none (under entries name) (some s) ↔ Says entries name s := by
  constructor
  · intro field
    generalize written : under entries name = vs at field
    cases field with
    | given done => exact ⟨_,written,readText_ok.mp done⟩
  · rintro ⟨v,one,spelt⟩
    rw [one]
    exact .given (readText_ok.mpr spelt)

-- A field that may be left out, by what its values come to: none, one or too many.
theorem field_iff {made : Option α → β} {meant : List Value → β → Prop} {b : β}
    (absent : meant [] b ↔ made none = b) (one : ∀ v, meant [v] b ↔ ∃ a, read v = .ok a ∧ made (some a) = b)
    (many : ∀ v w vs, ¬meant (v :: w :: vs) b) : (∃ x, Field read none vs x ∧ made x = b) ↔ meant vs b := by
  constructor
  · rintro ⟨x,field,same⟩
    cases field with
    | kept => exact absent.mpr same
    | given done => exact (one _).mpr ⟨_,done,same⟩
  · intro said
    match vs with
    | [] => exact ⟨none,.kept,absent.mp said⟩
    | [v] =>
      obtain ⟨a,done,same⟩ := (one v).mp said
      exact ⟨some a,.given done,same⟩
    | v :: w :: vs => exact absurd said (many v w vs)

theorem rates_iff {s : Severity} :
    (∃ x : Option Severity, Field readSeverity none vs x ∧ x.getD .warning = s) ↔ Rates vs s := by
  refine field_iff ⟨?_,?_⟩ (fun v => by simp [readSeverity_ok]) (fun v w vs => nofun)
  · rintro ⟨⟩
    rfl
  · rintro rfl
    exact .absent

theorem explains_iff {s : Option String} :
    (∃ x : Option (Option String), Field readDescription none vs x ∧ x.join = s) ↔ Explains vs s := by
  refine field_iff ⟨?_,?_⟩ (fun v => by simp [readDescription_ok]) (fun v w vs => nofun)
  · rintro ⟨⟩
    rfl
  · rintro rfl
    exact .absent

theorem fold_complete {d : RuleDefinition} :
    entries.foldlM readEntry {} >>= RuleFields.complete = .ok d ↔
      Tells entries d ∧ d.properties = [] := by
  simp only [bind_eq_ok,foldlM_readEntry,complete_ok]
  constructor
  · rintro ⟨f,⟨keys,id,language,message,severity,description,query⟩,isId,isLanguage,isMessage,isQuery,
      isSeverity,isDescription,bare⟩
    rw [isId] at id
    rw [isLanguage] at language
    rw [isMessage] at message
    rw [isQuery] at query
    exact ⟨⟨keys,says_iff.mp id,says_iff.mp language,says_iff.mp message,says_iff.mp query,
      rates_iff.mp ⟨_,severity,isSeverity⟩,explains_iff.mp ⟨_,description,isDescription⟩⟩,bare⟩
  · rintro ⟨⟨keys,id,language,message,query,severity,description⟩,bare⟩
    obtain ⟨x,rated,isSeverity⟩ := rates_iff.mpr severity
    obtain ⟨y,explained,isDescription⟩ := explains_iff.mpr description
    exact ⟨⟨some d.id,some d.language,some d.message,x,y,some d.query⟩,
      ⟨keys,says_iff.mpr id,says_iff.mpr language,says_iff.mpr message,rated,explained,says_iff.mpr query⟩,
      rfl,rfl,rfl,rfl,isSeverity,isDescription,bare⟩

theorem read_ok {d : RuleDefinition} : RuleFields.read v = .ok d ↔
    ∃ entries, v.untag = .mapping entries ∧ Tells entries d ∧ d.properties = [] := by
  unfold RuleFields.read
  split
  · rename_i entries map
    change entries.foldlM readEntry {} >>= RuleFields.complete = .ok d ↔ _
    rw [fold_complete,map]
    constructor
    · exact fun told => ⟨entries,rfl,told⟩
    · rintro ⟨_,same,told⟩
      exact Value.mapping.inj same ▸ told
  · rename_i nothing
    change ([] : Entries).foldlM readEntry {} >>= RuleFields.complete = .ok d ↔ _
    rw [fold_complete,nothing]
    constructor
    · rintro ⟨⟨_,⟨_,none,_⟩,_⟩,_⟩
      cases none
    · rintro ⟨_,other,_⟩
      cases other
  · rename_i other _
    constructor
    · intro done
      cases done
    · rintro ⟨entries,map,_⟩
      exact absurd map (other entries)

end Fields

section Properties
variable {entries : Entries} {given properties other : List (String × Atom)} {name m : String} {a : Atom}

theorem lookup_entry (n m : String) (a : Atom) (rest : List (String × Atom)) :
    ((n,a) :: rest).lookup m = if m = n then some a else rest.lookup m := by
  rw [List.lookup_cons]
  by_cases same : m = n
  · simp [same]
  · simp [beq_false_of_ne same,same]

theorem insertProperty_lookup (name : String) (a : Atom) (properties : List (String × Atom)) (m : String) :
    (insertProperty name a properties).lookup m = if m = name then some a else properties.lookup m := by
  induction properties with
  | nil => exact lookup_entry name m a []
  | cons p rest ih =>
    obtain ⟨n,b⟩ := p
    rw [insertProperty]
    split
    · rename_i same
      subst same
      rw [lookup_entry,lookup_entry]
      split <;> rfl
    · rename_i apart
      split
      · exact lookup_entry name m a ((n,b) :: rest)
      · rw [lookup_entry,lookup_entry,ih]
        by_cases same : m = n
        · rw [if_pos same,if_neg (same ▸ Ne.symm apart),if_pos same]
        · rw [if_neg same,if_neg same]

theorem mem_insertProperty {p : String × Atom} (member : p ∈ insertProperty name a properties) :
    p.1 = name ∨ p ∈ properties := by
  induction properties with
  | nil => exact .inl (by rw [List.mem_singleton.mp member])
  | cons q rest ih =>
    obtain ⟨n,b⟩ := q
    rw [insertProperty] at member
    split at member
    · rcases List.mem_cons.mp member with rfl | later
      · exact .inl rfl
      · exact .inr (List.mem_cons_of_mem _ later)
    · split at member
      · rcases List.mem_cons.mp member with rfl | later
        · exact .inl rfl
        · exact .inr later
      · rcases List.mem_cons.mp member with rfl | later
        · exact .inr List.mem_cons_self
        · exact (ih later).imp_right (List.mem_cons_of_mem _)

theorem insertProperty_ordered (name : String) (a : Atom)
    (ordered : properties.Pairwise fun p q => p.1 < q.1) :
    (insertProperty name a properties).Pairwise fun p q => p.1 < q.1 := by
  induction properties with
  | nil => exact List.pairwise_singleton _ _
  | cons q rest ih =>
    obtain ⟨n,b⟩ := q
    obtain ⟨first,later⟩ := List.pairwise_cons.mp ordered
    rw [insertProperty]
    split
    · rename_i same
      subst same
      exact List.pairwise_cons.mpr ⟨first,later⟩
    · rename_i apart
      split
      · rename_i before
        refine List.pairwise_cons.mpr ⟨fun p member => ?_,ordered⟩
        rcases List.mem_cons.mp member with rfl | behind
        · exact before
        · exact lt_trans before (first p behind)
      · rename_i behind
        refine List.pairwise_cons.mpr ⟨fun p member => ?_,ih later⟩
        rcases mem_insertProperty member with same | among
        · rw [same]
          exact lt_of_le_of_ne (not_lt.mp behind) (Ne.symm apart)
        · exact first p among

-- Properties put in one after the other.
theorem foldl_collects (given : List (String × Atom)) :
    Collects given (given.foldl (fun done p => insertProperty p.1 p.2 done) []) := by
  induction given using List.reverseRecOn with
  | nil => exact ⟨fun name => rfl,.nil⟩
  | append_singleton given p ih =>
    rw [List.foldl_append]
    refine ⟨fun name => ?_,insertProperty_ordered p.1 p.2 ih.ordered⟩
    change (insertProperty p.1 p.2 _).lookup name = _
    rw [insertProperty_lookup,ih.last,List.reverse_append]
    exact (lookup_entry p.1 name p.2 given.reverse).symm

theorem mem_of_ordered {n : String} (ordered : properties.Pairwise fun p q => p.1 < q.1) :
    (n,a) ∈ properties ↔ properties.lookup n = some a := by
  induction properties with
  | nil => simp
  | cons p rest ih =>
    obtain ⟨m,b⟩ := p
    obtain ⟨first,later⟩ := List.pairwise_cons.mp ordered
    rw [lookup_entry,List.mem_cons,ih later]
    by_cases same : n = m
    · subst same
      rw [if_pos rfl]
      refine ⟨fun either => either.elim (fun equal => ?_) fun among => ?_,fun equal => .inl ?_⟩
      · rw [(Prod.mk.inj equal).2]
      · exact absurd (first (n,a) ((ih later).mpr among)) (lt_irrefl n)
      · rw [Option.some.inj equal]
    · rw [if_neg same,or_iff_right]
      exact fun equal => same (Prod.mk.inj equal).1

-- The order of names and what stands under them settle the properties.
theorem Collects.unique (one : Collects given properties) (two : Collects given other) : properties = other := by
  have irreflexive : Std.Irrefl fun p q : String × Atom => p.1 < q.1 := ⟨fun p => lt_irrefl p.1⟩
  have antisymmetric : Std.Antisymm fun p q : String × Atom => p.1 < q.1 :=
    ⟨fun p q before behind => absurd behind (lt_asymm before)⟩
  refine one.ordered.eq_of_mem_iff two.ordered fun p => ?_
  rw [mem_of_ordered one.ordered,mem_of_ordered two.ordered,one.last,two.last]

theorem readProperties_ok (done : List (String × Atom)) : readProperties done entries = .ok properties ↔
    ∃ given, List.Forall₂ Gives entries given ∧
      given.foldl (fun done p => insertProperty p.1 p.2 done) done = properties := by
  induction entries generalizing done with
  | nil =>
    constructor
    · intro read
      exact ⟨[],.nil,Except.ok.inj read⟩
    · rintro ⟨_,⟨⟩,rfl⟩
      rfl
  | cons e entries ih =>
    constructor
    · intro read
      unfold readProperties at read
      split at read
      · rename_i none
        cases none
      · rename_i name v _ equal
        obtain ⟨rfl,rfl⟩ := List.cons.inj equal
        split at read
        · rename_i a known
          obtain ⟨given,all,made⟩ := (ih _).mp read
          exact ⟨(name,a) :: given,.cons ⟨rfl,known⟩ all,made⟩
        · cases read
      · cases read
    · rintro ⟨_,each,rfl⟩
      cases each with
      | cons first rest =>
        obtain ⟨key,v⟩ := e
        obtain ⟨rfl,known⟩ := first
        rw [readProperties,known]
        exact (ih _).mpr ⟨_,rest,rfl⟩

end Properties

theorem isAlpha_iff (c : Char) : c.isAlpha = true ↔ Letter c := by
  change (decide ('A' ≤ c ∧ c ≤ 'Z') || ('a' ≤ c && c ≤ 'z')) = true ↔ Letter c
  simp [Letter]

theorem isDigit_iff (c : Char) : c.isDigit = true ↔ '0' ≤ c ∧ c ≤ '9' := by
  simp [Char.isDigit,Char.le_def]

theorem isId_iff (s : String) : isId s = true ↔ Identifies s := by
  unfold isId Identifies
  cases s.toList with
  | nil => simp
  | cons c cs => simp [Char.isAlphanum,isAlpha_iff,isDigit_iff,or_assoc]

theorem trim_isEmpty (s : String) :
    (Unicode.trim s).isEmpty = true ↔ ∀ c ∈ s.toList, Unicode.isBlank c = true := by
  rw [Unicode.trim,String.isEmpty_iff,← String.toList_eq_nil_iff,String.toList_ofList,List.reverse_eq_nil_iff,
    List.dropWhile_eq_nil_iff]
  constructor
  · intro behind c member
    rw [← List.takeWhile_append_dropWhile (p := Unicode.isBlank) (l := s.toList)] at member
    rcases List.mem_append.mp member with front | back
    · exact List.mem_takeWhile_imp front
    · exact behind c (List.mem_reverse.mpr back)
  · intro all c member
    exact all c ((List.dropWhile_sublist _).subset (List.mem_reverse.mp member))

-- The entry under the plain key is taken out of a mapping, with whatever tags.
theorem take_properties : (v : Value) →
    (∃ all, v.untag = .mapping all ∧ (v.take "properties").1 = (all.find? isProperties).map Prod.snd ∧
      (v.take "properties").2.untag = .mapping (all.filter fun e => !isProperties e)) ∨
    (∀ all, v.untag ≠ .mapping all) ∧ (v.take "properties").2.untag = v.untag
  | .mapping all => by
    have key : (fun e : Value × Value => match e with | (.string s, _) => decide (s = "properties") | _ => false) =
        isProperties := by
      funext e
      rfl
    exact .inl ⟨all,rfl,by rw [Value.take]; rfl,by rw [Value.take]; rfl⟩
  | .tagged tag v => take_properties v
  | .null | .boolean _ | .number _ | .string _ | .sequence _ => .inr ⟨nofun,rfl⟩

theorem readGiven_ok {given : Option Value} {properties : List (String × Atom)} :
    readGiven given = .ok properties ↔ Carries given properties := by
  constructor
  · intro read
    unfold readGiven at read
    split at read
    · cases read
      exact .absent
    · cases read
      exact .null
    · obtain ⟨given,each,rfl⟩ := (readProperties_ok []).mp read
      exact .mapping each (foldl_collects given)
    · cases read
  · intro carries
    cases carries with
    | absent | null => rfl
    | mapping each collects => exact (readProperties_ok []).mpr ⟨_,each,(foldl_collects _).unique collects⟩

theorem Tells.properties {entries : Entries} {d : RuleDefinition} (tells : Tells entries d)
    (properties : List (String × Atom)) : Tells entries { d with properties } :=
  ⟨tells.keys,tells.id,tells.language,tells.message,tells.query,tells.severity,tells.description⟩

-- A value is read as a rule exactly if it is written as that rule.
theorem ofValue_ok (v : Value) (d : RuleDefinition) : ofValue v = .ok d ↔ Describes v d := by
  constructor
  · intro done
    obtain ⟨d,read,done⟩ := bind_eq_ok.mp done
    obtain ⟨fields,map,tells,_⟩ := read_ok.mp read
    split at done
    · cases done
    rename_i named
    split at done
    · cases done
    rename_i spoken
    obtain ⟨properties,given,last⟩ := bind_eq_ok.mp done
    cases last
    have identified : Identifies d.id := (isId_iff d.id).mp (by simpa using named)
    have query : ∃ c ∈ d.query.toList, Unicode.isBlank c = false := by
      rw [trim_isEmpty] at spoken
      simpa using spoken
    rcases take_properties v with ⟨all,whole,found,rest⟩ | ⟨other,rest⟩
    · cases Value.mapping.inj (rest.symm.trans map)
      exact .rule whole (tells.properties properties) identified query (readGiven_ok.mp (found ▸ given))
    · exact absurd (rest.symm.trans map) (other fields)
  · rintro ⟨whole,tells,identified,⟨c,member,visible⟩,carries⟩
    obtain ⟨all,same,found,rest⟩ := (take_properties v).resolve_right fun other => other.1 _ whole
    cases Value.mapping.inj (same.symm.trans whole)
    have read := read_ok.mpr ⟨_,rest,tells.properties [],rfl⟩
    have spoken : ¬(Unicode.trim d.query).isEmpty = true := by
      intro empty
      have blank := (trim_isEmpty d.query).mp empty c member
      rw [visible] at blank
      cases blank
    rw [ofValue,read]
    change (if !isId d.id then _ else if (Unicode.trim d.query).isEmpty then _ else _) = _
    rw [(isId_iff d.id).mpr identified,if_neg (by decide),if_neg spoken,found,readGiven_ok.mpr carries]
    rfl

end RuleDefinition

end TreeAudit
