import TreeAudit.Proofs.Rule.Decoding

-- Messages with their places filled. A message is filled property after property, each time in the
-- text that the properties before have made. Here that is compared with one pass over the message as
-- it was written: the two agree as long as no value, alone or with what stands around it, brings in
-- a place of a property still to come.
namespace TreeAudit.RuleDefinition

def placeOf (name : String) : List Char := '\x7b' :: (name.toList ++ ['\x7d'])

-- The property whose place a text begins with.
def placeAt? (properties : List (String × Atom)) (cs : List Char) : Option (String × Atom) :=
  properties.find? fun p => decide (placeOf p.1 <+: cs)

-- One pass from the left: the place of a property becomes its value, which is not looked at
-- again, and everything else stays.
def fill (properties : List (String × Atom)) : List Char → List Char
  | [] => []
  | c :: cs =>
    match placeAt? properties (c :: cs) with
    | some (name,a) => a.show.toList ++ fill properties (cs.drop (name.toList.length + 1))
    | none => c :: fill properties cs
termination_by cs => cs.length
decreasing_by all_goals simp; try omega

def filledMessage (d : RuleDefinition) : String :=
  String.ofList (fill d.properties d.message.toList)

-- How often the place of a name stands in a text.
def places (name : String) : List Char → Nat
  | [] => 0
  | c :: cs => places name cs + if placeOf name <+: c :: cs then 1 else 0

def Plain (cs : List Char) : Prop := '\x7b' ∉ cs ∧ '\x7d' ∉ cs

instance : DecidablePred Plain := fun _ => instDecidableAnd

-- The names of properties: without braces, and each given once.
structure Names (properties : List (String × Atom)) : Prop where
  plain : ∀ p ∈ properties, Plain p.1.toList
  distinct : (properties.map Prod.fst).Nodup

-- When a property has its turn, its places are those of the message as it was written.
def Undisturbed (properties : List (String × Atom)) (message : List Char) : Prop :=
  ∀ before p after, properties = before ++ p :: after →
    places p.1 (fill before message) = places p.1 message

-- Between two opening braces there is a closing one.
def Flat (cs : List Char) : Prop :=
  ∀ before inner after, cs = before ++ '\x7b' :: inner ++ '\x7b' :: after → '\x7d' ∈ inner

section Places

variable {name other : String} {properties : List (String × Atom)} {c : Char} {cs u rest : List Char}

theorem closed_begins {n : List Char} (plain : '\x7d' ∉ n) (first : '\x7d' ∉ u) :
    n ++ ['\x7d'] <+: u ++ '\x7d' :: rest ↔ n = u := by
  induction n generalizing u with
  | nil =>
    cases u with
    | nil => simp
    | cons d u =>
      simp only [List.mem_cons,not_or] at first
      simp [first.1]
  | cons c n ih =>
    simp only [List.mem_cons,not_or] at plain
    cases u with
    | nil => simpa using fun same => absurd same.symm plain.1
    | cons d u =>
      simp only [List.mem_cons,not_or] at first
      simp [ih plain.2 first.2]

theorem placeOf_begins (one : Plain name.toList) (two : Plain other.toList) :
    placeOf name <+: placeOf other ++ rest ↔ name = other := by
  have inner : name.toList ++ ['\x7d'] <+: other.toList ++ '\x7d' :: rest ↔ name.toList = other.toList :=
    closed_begins one.2 two.2
  simpa [placeOf,String.toList_inj] using inner

theorem placeOf_opens (begins : placeOf name <+: c :: cs) : c = '\x7b' := by
  simpa [placeOf,eq_comm] using (List.cons_prefix_cons.mp begins).1

theorem placeAt?_none : placeAt? properties cs = none ↔ ∀ p ∈ properties, ¬ placeOf p.1 <+: cs := by
  simp [placeAt?]

theorem placeAt?_opens (other : c ≠ '\x7b') : placeAt? properties (c :: cs) = none :=
  placeAt?_none.mpr fun _ _ begins => other (placeOf_opens begins)

theorem placeAt?_begins {p : String × Atom} (found : placeAt? properties cs = some p) :
    p ∈ properties ∧ placeOf p.1 <+: cs :=
  ⟨List.mem_of_find?_eq_some found,by simpa using List.find?_some found⟩

theorem Names.same (names : Names properties) {p q : String × Atom} (one : p ∈ properties)
    (two : q ∈ properties) (same : p.1 = q.1) : p = q :=
  List.inj_on_of_nodup_map names.distinct one two same

-- Names without braces keep places apart, so which property is found does not depend on the order.
theorem placeAt?_some (names : Names properties) {p : String × Atom} :
    placeAt? properties cs = some p ↔ p ∈ properties ∧ placeOf p.1 <+: cs := by
  refine ⟨placeAt?_begins,fun ⟨member,begins⟩ => ?_⟩
  cases found : placeAt? properties cs with
  | none => exact absurd begins (placeAt?_none.mp found p member)
  | some q =>
    obtain ⟨memberq,beginsq⟩ := placeAt?_begins found
    obtain ⟨w,rfl⟩ := begins
    have same := (placeOf_begins (names.plain q memberq) (names.plain p member)).mp beginsq
    rw [names.same memberq member same]

end Places

section Pass

variable {properties : List (String × Atom)} {name : String} {a : Atom} {c : Char} {cs u rest : List Char}

theorem fill_place (found : placeAt? properties (placeOf name ++ rest) = some (name,a)) :
    fill properties (placeOf name ++ rest) = a.show.toList ++ fill properties rest := by
  rw [placeOf,List.cons_append] at found ⊢
  rw [fill,found]
  simp [List.drop_append,List.drop_of_length_le]

theorem fill_copied (missing : placeAt? properties (c :: cs) = none) :
    fill properties (c :: cs) = c :: fill properties cs := by
  rw [fill,missing]

theorem fill_plain (closed : '\x7b' ∉ u) : fill properties (u ++ rest) = u ++ fill properties rest := by
  induction u with
  | nil => rfl
  | cons c u ih =>
    simp only [List.mem_cons,not_or] at closed
    rw [List.cons_append,fill_copied (placeAt?_opens (Ne.symm closed.1)),ih closed.2,List.cons_append]

theorem inner_closed (plain : Plain name.toList) : '\x7b' ∉ name.toList ++ ['\x7d'] := by
  simpa using plain.1

-- The place of a name that no property has is copied as a whole.
theorem fill_unknown (plain : Plain name.toList) (names : ∀ q ∈ properties, Plain q.1.toList)
    (fresh : ∀ q ∈ properties, name ≠ q.1) :
    fill properties (placeOf name ++ rest) = placeOf name ++ fill properties rest := by
  have missing : placeAt? properties (placeOf name ++ rest) = none :=
    placeAt?_none.mpr fun q member begins =>
      fresh q member ((placeOf_begins (names q member) plain).mp begins).symm
  rw [placeOf,List.cons_append] at missing ⊢
  rw [fill_copied missing,fill_plain (inner_closed plain),List.cons_append]

-- What holds of the empty text and goes over places and copied characters holds of every text.
@[elab_as_elim]
theorem pass_induction (properties : List (String × Atom)) {motive : List Char → Prop} (nil : motive [])
    (place : ∀ name a rest, placeAt? properties (placeOf name ++ rest) = some (name,a) →
      motive rest → motive (placeOf name ++ rest))
    (copied : ∀ c cs, placeAt? properties (c :: cs) = none → motive cs → motive (c :: cs))
    (cs : List Char) : motive cs := by
  induction cs using fill.induct properties with
  | case1 => exact nil
  | case2 c cs name a found ih =>
    obtain ⟨rest,split⟩ := (placeAt?_begins found).2
    have dropped : cs.drop (name.toList.length + 1) = rest := by
      have tail : cs = name.toList ++ '\x7d' :: rest := by
        simpa [placeOf] using (congrArg List.tail split).symm
      simp [tail,List.drop_append]
    rw [← split] at found ⊢
    exact place name a rest found (dropped ▸ ih)
  | case3 c cs missing ih => exact copied c cs missing ih

theorem Names.perm {arranged : List (String × Atom)} (names : Names properties)
    (perm : arranged.Perm properties) : Names arranged :=
  ⟨fun p member => names.plain p (perm.mem_iff.mp member),
    (perm.map Prod.fst).nodup_iff.mpr names.distinct⟩

theorem fill_perm {arranged : List (String × Atom)} (names : Names properties)
    (perm : arranged.Perm properties) : fill arranged cs = fill properties cs := by
  have same (cs : List Char) : placeAt? arranged cs = placeAt? properties cs := by
    refine Option.ext fun p => ?_
    rw [placeAt?_some (names.perm perm),placeAt?_some names,perm.mem_iff]
  induction cs using pass_induction properties with
  | nil => simp [fill]
  | place name a rest found ih => rw [fill_place found,fill_place ((same _).trans found),ih]
  | copied c cs missing ih => rw [fill_copied missing,fill_copied ((same _).trans missing),ih]

end Pass

section Replacement

variable {name other : String} {v : List Char} {c : Char} {cs u rest : List Char}

theorem replaceIn_place :
    Text.replaceIn (placeOf name) v (placeOf name ++ rest) =
      v ++ Text.replaceIn (placeOf name) v rest := by
  have begins : (placeOf name).isPrefixOf ('\x7b' :: (name.toList ++ ['\x7d'] ++ rest)) = true :=
    List.isPrefixOf_iff_prefix.mpr ⟨rest,rfl⟩
  rw [show placeOf name ++ rest = '\x7b' :: (name.toList ++ ['\x7d'] ++ rest) from rfl,
    Text.replaceIn,begins]
  simp [placeOf,List.drop_append,List.drop_of_length_le]

theorem replaceIn_copied (stays : ¬ placeOf name <+: c :: cs) :
    Text.replaceIn (placeOf name) v (c :: cs) = c :: Text.replaceIn (placeOf name) v cs := by
  have other : (placeOf name).isPrefixOf (c :: cs) = false :=
    Bool.eq_false_iff.mpr (mt List.isPrefixOf_iff_prefix.mp stays)
  rw [Text.replaceIn,other]
  simp

theorem places_copied (stays : ¬ placeOf name <+: c :: cs) : places name (c :: cs) = places name cs := by
  rw [places,if_neg stays,Nat.add_zero]

theorem places_plain (closed : '\x7b' ∉ u) : places name (u ++ rest) = places name rest := by
  induction u with
  | nil => rfl
  | cons c u ih =>
    simp only [List.mem_cons,not_or] at closed
    have stays : ¬ placeOf name <+: c :: (u ++ rest) := fun begins => closed.1 (placeOf_opens begins).symm
    rw [List.cons_append,places_copied stays,ih closed.2]

theorem places_place (one : Plain name.toList) (two : Plain other.toList) :
    places name (placeOf other ++ rest) = places name rest + if name = other then 1 else 0 := by
  have begins : placeOf name <+: '\x7b' :: (other.toList ++ ['\x7d'] ++ rest) ↔ name = other :=
    placeOf_begins one two
  rw [show placeOf other ++ rest = '\x7b' :: (other.toList ++ ['\x7d'] ++ rest) from rfl,
    places,places_plain (inner_closed two)]
  simp only [begins]

theorem places_append (name : String) (u rest : List Char) : places name rest ≤ places name (u ++ rest) := by
  induction u with
  | nil => exact Nat.le_refl _
  | cons c u ih => exact Nat.le_trans ih (Nat.le_add_right _ _)

-- A text in which no place begins is left alone, whatever follows it.
theorem replaceIn_unplaced (none : places name (u ++ rest) = places name rest) :
    Text.replaceIn (placeOf name) v (u ++ rest) = u ++ Text.replaceIn (placeOf name) v rest := by
  induction u with
  | nil => rfl
  | cons c u ih =>
    have least := places_append name u rest
    rw [List.cons_append] at none
    have stays : ¬ placeOf name <+: c :: (u ++ rest) := by
      intro begins
      rw [places,if_pos begins] at none
      omega
    have further := ih ((places_copied stays).symm.trans none)
    rw [List.cons_append,replaceIn_copied stays,further,List.cons_append]

-- What a turn puts in front of a text only adds places, and if it adds none, the turn of a later
-- property leaves it alone.
theorem brought (u : List Char) (least : places name cs ≤ places name rest) :
    places name cs ≤ places name (u ++ rest) ∧ (places name (u ++ rest) = places name cs →
      places name rest = places name cs ∧
        Text.replaceIn (placeOf name) v (u ++ rest) = u ++ Text.replaceIn (placeOf name) v rest) := by
  have added := places_append name u rest
  refine ⟨Nat.le_trans least added,fun same => ?_⟩
  have none : places name rest = places name cs := Nat.le_antisymm (added.trans_eq same) least
  exact ⟨none,replaceIn_unplaced (same.trans none.symm)⟩

end Replacement

section Turns

variable {before : List (String × Atom)} {name : String} {a : Atom}

theorem Names.earlier {after : List (String × Atom)} (names : Names (before ++ after)) : Names before :=
  ⟨fun q member => names.plain q (List.mem_append_left _ member),by
    have distinct := names.distinct
    rw [List.map_append] at distinct
    exact (List.nodup_append.mp distinct).1⟩

theorem Names.last {p : String × Atom} (names : Names (before ++ [p])) :
    Plain p.1.toList ∧ ∀ q ∈ before, p.1 ≠ q.1 := by
  refine ⟨names.plain p (by simp),fun q member same => ?_⟩
  have distinct := names.distinct
  rw [List.map_append] at distinct
  exact (List.nodup_append.mp distinct).2.2 q.1 (List.mem_map_of_mem member) p.1 (by simp) same.symm

-- One turn. The values before it only add places of its name, and where they add none the
-- replacement meets exactly the places of the message.
theorem turn (names : Names (before ++ [(name,a)])) (message : List Char) :
    places name message ≤ places name (fill before message) ∧
      (places name (fill before message) = places name message →
        Text.replaceIn (placeOf name) a.show.toList (fill before message) =
          fill (before ++ [(name,a)]) message) := by
  obtain ⟨plain,fresh⟩ : Plain name.toList ∧ ∀ q ∈ before, name ≠ q.1 := names.last
  induction message using pass_induction (before ++ [(name,a)]) with
  | nil => simp [fill,places,Text.replaceIn]
  | place k b rest found ih =>
    obtain ⟨least,ih⟩ := ih
    obtain ⟨member,-⟩ := placeAt?_begins found
    rw [places_place plain (names.plain (k,b) member),fill_place found]
    rcases List.mem_append.mp member with old | new
    · have earlier : placeAt? before (placeOf k ++ rest) = some (k,b) :=
        (placeAt?_some names.earlier).mpr ⟨old,List.prefix_append _ _⟩
      rw [fill_place earlier,if_neg (fresh (k,b) old),Nat.add_zero]
      obtain ⟨more,still⟩ := brought b.show.toList least
      refine ⟨more,fun same => ?_⟩
      obtain ⟨none,left⟩ := still same
      rw [left,ih none]
    · obtain ⟨rfl,rfl⟩ : k = name ∧ b = a := by simpa using new
      rw [fill_unknown plain names.earlier.plain fresh,places_place plain plain,if_pos rfl,replaceIn_place]
      exact ⟨Nat.succ_le_succ least,fun same => by rw [ih (Nat.succ_inj.mp same)]⟩
  | copied c cs missing ih =>
    obtain ⟨least,ih⟩ := ih
    have outside : ∀ q ∈ before ++ [(name,a)], ¬ placeOf q.1 <+: c :: cs := placeAt?_none.mp missing
    have earlier : placeAt? before (c :: cs) = none :=
      placeAt?_none.mpr fun q member => outside q (List.mem_append_left _ member)
    rw [fill_copied earlier,fill_copied missing,places_copied (outside (name,a) (by simp))]
    obtain ⟨more,still⟩ := brought [c] least
    refine ⟨more,fun same => ?_⟩
    obtain ⟨none,left⟩ := still same
    exact left.trans (congrArg (c :: ·) (ih none))

-- All turns, one after the other.
theorem turns (properties : List (String × Atom)) (names : Names properties) (message : List Char)
    (undisturbed : Undisturbed properties message) :
    properties.foldl (fun cs (p : String × Atom) => Text.replaceIn (placeOf p.1) p.2.show.toList cs)
      message = fill properties message := by
  induction properties using List.reverseRecOn with
  | nil =>
    induction message using pass_induction [] with
    | nil => simp [fill]
    | place name a rest found => simp [placeAt?] at found
    | copied c cs missing ih =>
      rw [fill_copied missing,← ih fun _ _ _ split => by simp at split]
      rfl
  | append_singleton before p ih =>
    have same := undisturbed before p [] rfl
    have earlier : Undisturbed before message := fun first q later split =>
      undisturbed first q (later ++ [p]) (by rw [split]; simp)
    rw [List.foldl_append,ih names.earlier earlier]
    exact (turn names message).2 same

end Turns

section Flatness

variable {properties : List (String × Atom)} {name : String} {cs u : List Char}

theorem Flat.rest (flat : Flat (u ++ cs)) : Flat cs := fun before inner after split =>
  flat (u ++ before) inner after (by rw [split]; simp)

-- Whether a place begins at an opening brace is settled before the next one.
theorem place_settled (plain : Plain name.toList) (flat : Flat ('\x7b' :: cs)) :
    placeOf name <+: '\x7b' :: fill properties cs ↔ placeOf name <+: '\x7b' :: cs := by
  by_cases opened : '\x7b' ∈ cs
  · obtain ⟨u,after,rfl,copied⟩ := List.eq_append_cons_of_mem opened
    obtain ⟨inner,between,rfl,first⟩ := List.eq_append_cons_of_mem (flat [] u after rfl)
    rw [fill_plain copied]
    simp only [placeOf,List.cons_prefix_cons,true_and,List.append_assoc,List.cons_append]
    rw [closed_begins plain.2 first,closed_begins plain.2 first]
  · have copied : fill properties (cs ++ []) = cs ++ fill properties [] := fill_plain opened
    rw [List.append_nil,fill,List.append_nil] at copied
    rw [copied]

theorem places_flat (names : Names properties) (plain : Plain name.toList)
    (fresh : ∀ q ∈ properties, name ≠ q.1) (values : ∀ q ∈ properties, '\x7b' ∉ q.2.show.toList)
    (flat : Flat cs) : places name (fill properties cs) = places name cs := by
  induction cs using pass_induction properties with
  | nil => simp [fill]
  | place k b rest found ih =>
    obtain ⟨member,-⟩ := placeAt?_begins found
    rw [fill_place found,places_plain (values (k,b) member),places_place plain (names.plain (k,b) member),
      if_neg (fresh (k,b) member),ih flat.rest,Nat.add_zero]
  | copied c cs missing ih =>
    have same : placeOf name <+: c :: fill properties cs ↔ placeOf name <+: c :: cs := by
      by_cases opens : c = '\x7b'
      · subst opens
        exact place_settled plain flat
      · exact iff_of_false (mt placeOf_opens opens) (mt placeOf_opens opens)
    rw [fill_copied missing,places,places,ih (Flat.rest (u := [c]) flat)]
    simp only [same]

theorem undisturbed_flat (names : Names properties) (values : ∀ q ∈ properties, '\x7b' ∉ q.2.show.toList)
    (flat : Flat cs) : Undisturbed properties cs := by
  rintro before p after rfl
  have turned : before ++ p :: after = (before ++ [p]) ++ after := by simp
  have names : Names (before ++ [p]) := Names.earlier (turned ▸ names)
  exact places_flat names.earlier names.last.1 names.last.2
    (fun q member => values q (List.mem_append_left _ member)) flat

end Flatness

theorem Carries.ordered {given : Option Yaml.Value} {properties : List (String × Atom)}
    (carries : Carries given properties) : properties.Pairwise fun p q => p.1 < q.1 := by
  cases carries with
  | absent | null => exact .nil
  | mapping each collects => exact collects.ordered

-- Properties that are read are ordered by name, so each is named once.
theorem ofValue_distinct {v : Yaml.Value} {d : RuleDefinition} (read : ofValue v = .ok d) :
    (d.properties.map Prod.fst).Nodup := by
  obtain ⟨_,_,_,_,carries⟩ := (ofValue_ok v d).mp read
  exact List.pairwise_map.mpr (carries.ordered.imp fun before => ne_of_lt before)

theorem renderedMessage_turns (d : RuleDefinition) :
    d.renderedMessage = String.ofList (d.properties.foldl (fun cs (p : String × Atom) =>
      Text.replaceIn (placeOf p.1) p.2.show.toList cs) d.message.toList) := by
  unfold renderedMessage
  generalize d.message = message
  induction d.properties generalizing message with
  | nil => simp
  | cons p rest ih =>
    rw [List.foldl_cons,List.foldl_cons,ih]
    simp [Text.replaceAll,placeOf]

-- In whatever order the properties have their turns, the message is the one that a single pass
-- makes, as long as no turn finds more places than the message had. In a flat message, filled with
-- values that open no brace, none does.
theorem renderedMessage_filled (d : RuleDefinition) (names : Names d.properties)
    (arranged : List (String × Atom)) (perm : arranged.Perm d.properties) :
    (Undisturbed arranged d.message.toList →
      ({ d with properties := arranged } : RuleDefinition).renderedMessage = d.filledMessage) ∧
    (Flat d.message.toList → (∀ p ∈ d.properties, '\x7b' ∉ p.2.show.toList) →
      Undisturbed arranged d.message.toList) := by
  have names' := names.perm perm
  constructor
  · intro undisturbed
    rw [renderedMessage_turns,turns arranged names' _ undisturbed,fill_perm names perm,filledMessage]
  · exact fun flat values =>
      undisturbed_flat names' (fun q member => values q (perm.mem_iff.mp member)) flat

def limited : RuleDefinition where
  id := "limited"
  language := "java"
  message := "\x7bname\x7d is over \x7blimit\x7d, \x7bother\x7d"
  query := "//x"
  properties := [("limit",.number 3),("name",.text "\x7blimit\x7d")]

theorem limited_names : Names limited.properties := ⟨by decide +kernel,by decide +kernel⟩

theorem limited_undisturbed : Undisturbed limited.properties limited.message.toList := by
  intro before p after split
  match before with
  | [] =>
    cases split
    decide +kernel
  | [q] =>
    cases split
    decide +kernel
  | _ :: _ :: _ => simp [limited] at split

-- The limit had its turn before the name brings in its place.
theorem renderedMessage_filled_limited :
    Names limited.properties ∧ Undisturbed limited.properties limited.message.toList ∧
      limited.renderedMessage = "\x7blimit\x7d is over 3, \x7bother\x7d" := by
  have filled := (renderedMessage_filled limited limited_names limited.properties (.refl _)).1 limited_undisturbed
  exact ⟨limited_names,limited_undisturbed,filled.trans (by decide +kernel)⟩

def refilled : RuleDefinition where
  id := "refilled"
  language := "java"
  message := "\x7ba\x7d"
  query := "//x"
  properties := [("a",.text "\x7bb\x7d"),("b",.text "x")]

-- A value that brings in the place of a later property is itself filled, unless the properties
-- have their turns the other way round.
theorem renderedMessage_refilled :
    Names refilled.properties ∧ refilled.filledMessage = "\x7bb\x7d" ∧ refilled.renderedMessage = "x" ∧
      ({ refilled with properties := refilled.properties.reverse } : RuleDefinition).renderedMessage =
        "\x7bb\x7d" := by
  exact ⟨⟨by decide +kernel,by decide +kernel⟩,by decide +kernel,by decide +kernel,by decide +kernel⟩

end TreeAudit.RuleDefinition
