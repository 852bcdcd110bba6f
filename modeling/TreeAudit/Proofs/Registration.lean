import Mathlib.Data.List.Induction
import Mathlib.Data.List.Nodup
import TreeAudit.Languages
import TreeAudit.Proofs.Query.Outcome

-- Registration. What a list of languages asks for is one sequence of entries: each language under its id,
-- then under its extensions in lower case. The tables hold exactly these entries as long as none clashes
-- with an earlier one, and the first that does is the conflict that is reported.
namespace TreeAudit
namespace Registry

inductive Entry
  | language (l : Language)
  | suffix (e : String) (l : Language)

def Entry.id? : Entry → Option String
  | .language l => some l.id
  | .suffix _ _ => none

def Entry.suffix? : Entry → Option String
  | .language _ => none
  | .suffix e _ => some e

def suffixes (l : Language) : List String := l.extensions.map Text.lowerAscii

def entriesOf (l : Language) : List Entry := .language l :: (suffixes l).map fun e => .suffix e l

def entries (languages : List Language) : List Entry := languages.flatMap entriesOf

-- What is said of an entry that asks for a key of an earlier one.
inductive Clash : Entry → Entry → RegistryConflict → Prop
  | language : earlier.id = later.id → Clash (.language earlier) (.language later) (.language later.id)
  | suffix : Clash (.suffix e first) (.suffix e second) (.fileExtension e first.id second.id)

-- No entry asks for a key of an earlier one.
def Free (es : List Entry) : Prop := es.Pairwise fun earlier later => ∀ conflict, ¬Clash earlier later conflict

def FirstConflict (es : List Entry) (conflict : RegistryConflict) : Prop :=
  ∃ before entry after, es = before ++ entry :: after ∧ Free before ∧
    ∃ earlier ∈ before, Clash earlier entry conflict

structure Tables.Hold (t : Tables) (es : List Entry) : Prop where
  byId : ∀ id l, t.byId.lookup id = some l ↔ .language l ∈ es ∧ l.id = id
  byExtension : ∀ e l, t.byExtension.lookup e = some l ↔ .suffix e l ∈ es

-- One entry on its own.
def Tables.note (t : Tables) : Entry → Except RegistryConflict Tables
  | .language l =>
    match t.byId.lookup l.id with
    | some _ => .error (.language l.id)
    | none => .ok ⟨(l.id,l) :: t.byId,t.byExtension⟩
  | .suffix e l =>
    match t.byExtension.lookup e with
    | some first => .error (.fileExtension e first.id l.id)
    | none => .ok ⟨t.byId,(e,l) :: t.byExtension⟩

section Entering
variable {t : Tables} {es before : List Entry} {entry earlier : Entry} {conflict : RegistryConflict}
  {languages : List Language}

theorem claim_notes (ids table : Table) (l : Language) (extensions : List String) :
    (claim l table extensions >>= fun table => pure ⟨ids,table⟩) =
      ((extensions.map Text.lowerAscii).map fun e => .suffix e l).foldlM Tables.note ⟨ids,table⟩ := by
  induction extensions generalizing table with
  | nil => rfl
  | cons e extensions ih =>
    rw [claim,List.map_cons,List.map_cons,List.foldlM_cons,Tables.note]
    cases taken : table.lookup (Text.lowerAscii e) with
    | some first => rfl
    | none => exact ih _

theorem enter_notes (t : Tables) (l : Language) : t.enter l = (entriesOf l).foldlM Tables.note t := by
  rw [Tables.enter,entriesOf,List.foldlM_cons,Tables.note]
  cases t.byId.lookup l.id with
  | some other => rfl
  | none => exact claim_notes ((l.id,l) :: t.byId) t.byExtension l l.extensions

theorem tables_notes (languages : List Language) (t : Tables) :
    languages.foldlM Tables.enter t = (entries languages).foldlM Tables.note t := by
  induction languages generalizing t with
  | nil => rfl
  | cons l languages ih =>
    rw [entries,List.flatMap_cons,List.foldlM_append,List.foldlM_cons,enter_notes]
    exact congrArg _ (funext ih)

theorem empty_hold : Tables.empty.Hold [] := by
  refine ⟨fun id l => ?_,fun e l => ?_⟩
  · exact iff_of_false (by simp [Tables.empty]) fun listed => absurd listed.1 List.not_mem_nil
  · exact iff_of_false (by simp [Tables.empty]) List.not_mem_nil

-- A table with one more key, which no earlier entry has.
theorem lookup_entered {table : Table} {key : String} {l : Language} (Listed : String → Language → Prop)
    (holds : ∀ other k, table.lookup other = some k ↔ Listed other k) (fresh : ∀ k, ¬Listed key k)
    (other : String) (k : Language) :
    List.lookup other ((key,l) :: table) = some k ↔ Listed other k ∨ other = key ∧ k = l := by
  rw [List.lookup_cons]
  by_cases same : other = key
  · subst same
    simp only [beq_self_eq_true,Option.some.injEq,true_and,@eq_comm _ l]
    exact (or_iff_right (fresh k)).symm
  · simp only [beq_false_of_ne same,holds,same,false_and,or_false]

theorem note_free (holds : t.Hold before) (free : ∀ earlier ∈ before, ∀ conflict, ¬Clash earlier entry conflict) :
    ∃ later, t.note entry = .ok later ∧ later.Hold (before ++ [entry]) := by
  cases entry with
  | language l =>
    have fresh : ∀ k, ¬(Entry.language k ∈ before ∧ k.id = l.id) :=
      fun k taken => free _ taken.1 _ (.language taken.2)
    have none : t.byId.lookup l.id = none := by
      refine Option.eq_none_iff_forall_ne_some.mpr fun k found => ?_
      exact fresh k ((holds.byId _ _).mp found)
    refine ⟨⟨(l.id,l) :: t.byId,t.byExtension⟩,by rw [Tables.note,none],fun id k => ?_,fun e k => ?_⟩
    · rw [lookup_entered (fun id k => .language k ∈ before ∧ k.id = id) holds.byId fresh]
      simp only [List.mem_append,List.mem_singleton,Entry.language.injEq]
      constructor
      · rintro (⟨member,same⟩ | ⟨rfl,rfl⟩)
        · exact ⟨.inl member,same⟩
        · exact ⟨.inr rfl,rfl⟩
      · rintro ⟨member | rfl,same⟩
        · exact .inl ⟨member,same⟩
        · exact .inr ⟨same.symm,rfl⟩
    · simp [holds.byExtension]
  | suffix e l =>
    have fresh : ∀ k, Entry.suffix e k ∉ before := fun k taken => free _ taken _ .suffix
    have none : t.byExtension.lookup e = none := by
      refine Option.eq_none_iff_forall_ne_some.mpr fun k found => ?_
      exact fresh k ((holds.byExtension _ _).mp found)
    refine ⟨⟨t.byId,(e,l) :: t.byExtension⟩,by rw [Tables.note,none],fun id k => ?_,fun other k => ?_⟩
    · simp [holds.byId]
    · rw [lookup_entered (fun e k => .suffix e k ∈ before) holds.byExtension fresh]
      simp only [List.mem_append,List.mem_singleton,Entry.suffix.injEq]

theorem note_clash (holds : t.Hold before) (member : earlier ∈ before) (clash : Clash earlier entry conflict) :
    t.note entry = .error conflict := by
  cases clash with
  | language same => rw [Tables.note,(holds.byId _ _).mpr ⟨member,same⟩]
  | suffix => rw [Tables.note,(holds.byExtension _ _).mpr member]

-- Entries without a clash are all entered.
theorem notes_free (holds : t.Hold before) (free : Free (before ++ es)) :
    ∃ later, es.foldlM Tables.note t = .ok later ∧ later.Hold (before ++ es) := by
  induction es generalizing t before with
  | nil => exact ⟨t,rfl,(List.append_nil before).symm ▸ holds⟩
  | cons entry es ih =>
    have apart := (List.pairwise_append.mp free).2.2
    obtain ⟨next,noted,kept⟩ := note_free holds fun earlier member => apart earlier member entry List.mem_cons_self
    rw [List.append_cons] at free ⊢
    obtain ⟨later,rest,all⟩ := ih kept free
    refine ⟨later,?_,all⟩
    rw [List.foldlM_cons,noted]
    exact rest

theorem free_or_first (es : List Entry) : Free es ∨ ∃ conflict, FirstConflict es conflict := by
  induction es using List.reverseRecOn with
  | nil => exact .inl .nil
  | append_singleton es entry ih =>
    rcases ih with free | ⟨conflict,before,first,after,rfl,start,clash⟩
    · by_cases clash : ∃ earlier ∈ es, ∃ conflict, Clash earlier entry conflict
      · obtain ⟨earlier,member,conflict,clash⟩ := clash
        exact .inr ⟨conflict,es,entry,[],rfl,free,earlier,member,clash⟩
      · refine .inl (List.pairwise_append.mpr ⟨free,List.pairwise_singleton _ _,?_⟩)
        rintro earlier member later here conflict clashing
        cases List.mem_singleton.mp here
        exact clash ⟨earlier,member,conflict,clashing⟩
    · exact .inr ⟨conflict,before,first,after ++ [entry],by simp,start,clash⟩

theorem tables_free (free : Free (entries languages)) :
    ∃ t, Tables.ofLanguages languages = .ok t ∧ t.Hold (entries languages) := by
  rw [Tables.ofLanguages,tables_notes]
  exact notes_free empty_hold free

theorem tables_first (first : FirstConflict (entries languages) conflict) :
    Tables.ofLanguages languages = .error conflict := by
  obtain ⟨before,entry,after,split,free,earlier,member,clash⟩ := first
  obtain ⟨t,entered,holds⟩ := notes_free empty_hold free
  rw [Tables.ofLanguages,tables_notes,split,List.foldlM_append,entered]
  change (List.foldlM Tables.note t (entry :: after)) = _
  rw [List.foldlM_cons,note_clash holds member clash]
  rfl

theorem clash_iff {later : Entry} : (∀ conflict, ¬Clash earlier later conflict) ↔
    (∀ a, earlier.id? = some a → ∀ b, later.id? = some b → a ≠ b) ∧
      ∀ a, earlier.suffix? = some a → ∀ b, later.suffix? = some b → a ≠ b := by
  constructor
  · intro free
    constructor
    · rintro a one b two rfl
      cases earlier <;> cases later <;> cases one <;> first | cases two | skip
      exact free _ (.language (Option.some.inj two).symm)
    · rintro a one b two rfl
      cases earlier <;> cases later <;> cases one <;> cases two
      exact free _ .suffix
  · rintro ⟨ids,suffixes⟩ conflict clash
    cases clash with
    | language same => exact ids _ rfl _ rfl same
    | suffix => exact suffixes _ rfl _ rfl rfl

-- No clash means that all ids are different, and so are all extensions in lower case.
theorem free_iff (es : List Entry) :
    Free es ↔ (es.filterMap Entry.id?).Nodup ∧ (es.filterMap Entry.suffix?).Nodup := by
  unfold List.Nodup
  rw [List.pairwise_filterMap,List.pairwise_filterMap,← List.pairwise_and_iff]
  exact ⟨List.Pairwise.imp clash_iff.mp,List.Pairwise.imp clash_iff.mpr⟩

theorem entries_keys (languages : List Language) :
    (entries languages).filterMap Entry.id? = languages.map (·.id) ∧
      (entries languages).filterMap Entry.suffix? = languages.flatMap suffixes := by
  induction languages with
  | nil => exact ⟨rfl,rfl⟩
  | cons l languages ih =>
    have ids : ((suffixes l).map (Entry.suffix · l)).filterMap Entry.id? = [] := by
      rw [List.filterMap_map]
      exact List.filterMap_eq_nil_iff.mpr fun _ _ => rfl
    have own : ((suffixes l).map (Entry.suffix · l)).filterMap Entry.suffix? = suffixes l := by
      rw [List.filterMap_map]
      exact List.filterMap_some
    rw [entries] at ih ⊢
    rw [List.flatMap_cons,List.filterMap_append,List.filterMap_append,ih.1,ih.2,entriesOf,
      List.filterMap_cons,List.filterMap_cons,ids,own]
    exact ⟨rfl,rfl⟩

theorem mem_entries {l : Language} : .language l ∈ entries languages ↔ l ∈ languages := by
  simp [entries,entriesOf]

theorem suffix_mem_entries {e : String} {l : Language} :
    .suffix e l ∈ entries languages ↔ l ∈ languages ∧ e ∈ suffixes l := by
  simp only [entries,entriesOf,List.mem_flatMap,List.mem_cons,reduceCtorEq,false_or,List.mem_map,
    Entry.suffix.injEq]
  constructor
  · rintro ⟨k,member,other,listed,rfl,rfl⟩
    exact ⟨member,listed⟩
  · rintro ⟨member,listed⟩
    exact ⟨l,member,e,listed,rfl,rfl⟩

theorem handlesExtension_iff {l : Language} {extension : String} :
    l.handlesExtension extension = true ↔ Text.lowerAscii extension ∈ suffixes l := by
  simp [Language.handlesExtension,suffixes,Text.equalIgnoringCase_iff]

end Entering

section Lookups
variable {r : Registry} {id extension : String} {l : Language} {languages : List Language}
  {conflict : RegistryConflict}

theorem ofLanguages_ok : ofLanguages languages = .ok r ↔
    (∃ t, Tables.ofLanguages languages = .ok t) ∧ r.languages = languages := by
  rw [ofLanguages,Query.bind_eq_ok]
  constructor
  · rintro ⟨t,entered,done⟩
    cases done
    exact ⟨⟨t,entered⟩,rfl⟩
  · rintro ⟨⟨t,entered⟩,rfl⟩
    exact ⟨t,entered,rfl⟩

theorem ofLanguages_error :
    ofLanguages languages = .error conflict ↔ Tables.ofLanguages languages = .error conflict := by
  rw [ofLanguages]
  cases Tables.ofLanguages languages with
  | error other =>
    change Except.error other = _ ↔ _
    rw [Except.error.injEq,Except.error.injEq]
  | ok t => exact iff_of_false (fun failed => by cases failed) fun failed => by cases failed

-- Whatever the languages are, the tables hold the entries of the languages or nothing at all.
theorem tables_hold (r : Registry) : r.tables.Hold (entries r.languages) ∨ r.tables = .empty := by
  rcases free_or_first (entries r.languages) with free | ⟨conflict,first⟩
  · obtain ⟨t,entered,holds⟩ := tables_free free
    rw [tables,entered]
    exact .inl holds
  · rw [tables,tables_first first]
    exact .inr rfl

theorem lookup_mem (found : r.lookup? id = some l) : l ∈ r.languages := by
  rcases tables_hold r with holds | none
  · exact mem_entries.mp ((holds.byId _ _).mp found).1
  · rw [lookup?,none] at found
    cases found

theorem forExtension_mem (found : r.forExtension? extension = some l) : l ∈ r.languages := by
  rcases tables_hold r with holds | none
  · exact (suffix_mem_entries.mp ((holds.byExtension _ _).mp found)).1
  · rw [forExtension?,none] at found
    cases found

theorem registered_iff : (∃ r, ofLanguages languages = .ok r) ↔ Free (entries languages) := by
  constructor
  · rintro ⟨r,registered⟩
    obtain ⟨⟨t,entered⟩,_⟩ := ofLanguages_ok.mp registered
    rcases free_or_first (entries languages) with free | ⟨conflict,first⟩
    · exact free
    · cases (tables_first first).symm.trans entered
  · intro free
    obtain ⟨t,entered,_⟩ := tables_free free
    exact ⟨⟨languages⟩,ofLanguages_ok.mpr ⟨⟨t,entered⟩,rfl⟩⟩

theorem registered_hold (registered : ofLanguages languages = .ok r) : r.tables.Hold (entries languages) := by
  obtain ⟨t,entered,holds⟩ := tables_free (registered_iff.mp ⟨r,registered⟩)
  rw [tables,(ofLanguages_ok.mp registered).2,entered]
  exact holds

theorem lookup_registered (registered : ofLanguages languages = .ok r) :
    r.lookup? id = some l ↔ l ∈ languages ∧ l.id = id := by
  rw [lookup?,(registered_hold registered).byId,mem_entries]

theorem forExtension_registered (registered : ofLanguages languages = .ok r) :
    r.forExtension? extension = some l ↔ l ∈ languages ∧ l.handlesExtension extension = true := by
  rw [forExtension?,(registered_hold registered).byExtension,suffix_mem_entries,handlesExtension_iff]

end Lookups

-- Languages are registered if no id and no extension, in lower case, comes twice. Then each is found by its
-- id alone and by the extensions that it handles, in any case of letters, and no other language handles
-- one of these. Otherwise the first entry that asks for a taken key is reported, with the owner of the key.
theorem registration_exact (languages : List Language) :
    ((∃ r, ofLanguages languages = .ok r) ↔
      (languages.map (·.id)).Nodup ∧ (languages.flatMap suffixes).Nodup) ∧
    (∀ r, ofLanguages languages = .ok r →
      r.languageIds = languages.map (·.id) ∧
      (∀ id l, r.lookup? id = some l ↔ l ∈ languages ∧ l.id = id) ∧
      (∀ extension l, r.forExtension? extension = some l ↔
        l ∈ languages ∧ l.handlesExtension extension = true) ∧
      languages.Pairwise fun one two => ∀ extension,
        ¬(one.handlesExtension extension = true ∧ two.handlesExtension extension = true)) ∧
    ∀ conflict, ofLanguages languages = .error conflict ↔ FirstConflict (entries languages) conflict := by
  have distinct := free_iff (entries languages)
  rw [(entries_keys languages).1,(entries_keys languages).2] at distinct
  refine ⟨registered_iff.trans distinct,fun r registered => ⟨?_,?_,?_,?_⟩,fun conflict => ?_⟩
  · rw [languageIds,(ofLanguages_ok.mp registered).2]
  · exact fun id l => lookup_registered registered
  · exact fun extension l => forExtension_registered registered
  · have apart : languages.Nodup := (distinct.mp (registered_iff.mp ⟨r,registered⟩)).1.of_map
    refine apart.pairwise_of_forall_ne fun one first two second different extension both => different ?_
    have here := (forExtension_registered registered).mpr ⟨first,both.1⟩
    exact Option.some.inj (here.symm.trans ((forExtension_registered registered).mpr ⟨second,both.2⟩))
  · rw [ofLanguages_error]
    refine ⟨fun failed => ?_,tables_first⟩
    rcases free_or_first (entries languages) with free | ⟨other,first⟩
    · obtain ⟨t,entered,_⟩ := tables_free free
      cases entered.symm.trans failed
    · cases (tables_first first).symm.trans failed
      exact first

example : ofLanguages Registry.builtIn.languages = .ok Registry.builtIn := rfl

-- Two languages of which the second takes an extension of the first, in another case of letters, or not.
theorem registration_exact_sample :
    let one : Language := { Java.language with id := "one", extensions := ["a","B"] }
    let two : Language := { Java.language with id := "two", extensions := ["c"] }
    let other : Language := { two with extensions := ["c","b"] }
    ofLanguages [one,two] = .ok ⟨[one,two]⟩ ∧ Registry.lookup? ⟨[one,two]⟩ "two" = some two ∧
      Registry.forExtension? ⟨[one,two]⟩ "b" = some one ∧
      ofLanguages [one,other] = .error (.fileExtension "b" "one" "two") ∧
      FirstConflict (entries [one,other]) (.fileExtension "b" "one" "two") := by
  intro one two other
  have registered : ofLanguages [one,two] = .ok ⟨[one,two]⟩ := rfl
  have refused : ofLanguages [one,other] = .error (.fileExtension "b" "one" "two") := rfl
  obtain ⟨_,byId,byExtension,_⟩ := (registration_exact [one,two]).2.1 _ registered
  refine ⟨registered,(byId _ _).mpr ⟨?_,rfl⟩,(byExtension _ _).mpr ⟨List.mem_cons_self,rfl⟩,refused,?_⟩
  · exact List.mem_cons_of_mem _ List.mem_cons_self
  · exact ((registration_exact [one,other]).2.2 _).mp refused

end Registry
end TreeAudit
