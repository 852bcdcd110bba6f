import Mathlib.Data.List.Nodup
import TreeAudit.Proofs.Tree.Pruning

-- Trees from which some nodes are cut out with all that is below them. What stays keeps its order and its links
-- and is numbered anew without gaps, which makes a tree again; what counts below a node is what counts there in
-- the smaller tree and what was cut out.
namespace TreeAudit.Tree
open Relation

-- Whether neither a node nor any above it is cut out.
def stays (t : Tree) (cut : NodeId → Bool) (n : Nat) : Bool := (n :: t.ancestors n).all fun a => !cut a

def kept (t : Tree) (cut : NodeId → Bool) : List Nat := (List.range t.size).filter (t.stays cut)

-- The number that a node has among those that stay.
def place (t : Tree) (cut : NodeId → Bool) (n : Nat) : Nat := (List.range n).countP (t.stays cut)

def moved (t : Tree) (cut : NodeId → Bool) (n : NodeId) : Node :=
  { t.node n with
    parent := (t.parent n).map (t.place cut)
    children := ((t.children n).filter (t.stays cut)).map (t.place cut) }

def without (t : Tree) (cut : NodeId → Bool) : Tree := { t with nodes := ((t.kept cut).map (t.moved cut)).toArray }

variable {t : Tree} {cut : NodeId → Bool} {a c d m n p q : Nat}

section Places

-- Numbers that count what goes before them are those from zero on.
theorem places_range (wanted : Nat → Bool) (size : Nat) :
    ((List.range size).filter wanted).map (fun n => (List.range n).countP wanted) =
      List.range ((List.range size).countP wanted) := by
  induction size with
  | zero => rfl
  | succ size ih =>
    rw [List.range_succ,List.filter_append,List.map_append,ih,List.countP_append]
    cases here : wanted size with
    | true => simp [here,List.range_succ]
    | false => simp [here]

theorem kept_places (t : Tree) (cut : NodeId → Bool) :
    (t.kept cut).map (t.place cut) = List.range (t.kept cut).length := by
  have places := places_range (t.stays cut) t.size
  rw [List.countP_eq_length_filter] at places
  exact places

theorem size_without (t : Tree) (cut : NodeId → Bool) : (t.without cut).size = (t.kept cut).length := by
  simp [without,size]

theorem size_without_le (t : Tree) (cut : NodeId → Bool) : (t.without cut).size ≤ t.size := by
  rw [size_without]
  exact (List.length_filter_le _ _).trans_eq List.length_range

theorem mem_kept : n ∈ t.kept cut ↔ n < t.size ∧ t.stays cut n = true := by simp [kept]

theorem place_mono (order : m ≤ n) : t.place cut m ≤ t.place cut n :=
  (List.range_sublist.mpr order).countP_le

theorem place_lt (order : m < n) (stay : t.stays cut m = true) : t.place cut m < t.place cut n := by
  have next : t.place cut (m + 1) = t.place cut m + 1 := by simp [place,List.range_succ,stay]
  have later : t.place cut (m + 1) ≤ t.place cut n := place_mono order
  omega

theorem place_inj (one : t.stays cut m = true) (two : t.stays cut n = true)
    (same : t.place cut m = t.place cut n) : m = n := by
  rcases Nat.lt_trichotomy m n with lower | equal | upper
  · have apart := place_lt lower one
    omega
  · exact equal
  · have apart := place_lt upper two
    omega

-- Each number of the smaller tree is the place of one node that stays.
theorem exists_place (inside : q < (t.without cut).size) : ∃ n ∈ t.kept cut, t.place cut n = q := by
  rw [size_without] at inside
  have member : q ∈ (t.kept cut).map (t.place cut) := by
    rw [kept_places]
    exact List.mem_range.mpr inside
  exact List.mem_map.mp member

theorem kept_at (member : n ∈ t.kept cut) : (t.kept cut)[t.place cut n]? = some n := by
  obtain ⟨i,inside,here⟩ := List.getElem_of_mem member
  have number : ((t.kept cut).map (t.place cut))[i]? = some i := by
    rw [kept_places,List.getElem?_range inside]
  rw [List.getElem?_map,List.getElem?_eq_getElem inside,here] at number
  rw [Option.some.inj number,List.getElem?_eq_getElem inside,here]

theorem place_inside (member : n ∈ t.kept cut) : t.place cut n < (t.without cut).size := by
  rw [size_without]
  exact (List.getElem?_eq_some_iff.mp (kept_at member)).1

theorem node_without (member : n ∈ t.kept cut) : (t.without cut).node (t.place cut n) = t.moved cut n := by
  rw [node,without,Array.getD_eq_getD_getElem?]
  simp [kept_at member]

theorem kind_without (member : n ∈ t.kept cut) : (t.without cut).kind (t.place cut n) = t.kind n := by
  rw [kind,node_without member]
  rfl

theorem token_without (member : n ∈ t.kept cut) (field : String) :
    (t.without cut).token (t.place cut n) field = t.token n field := by
  rw [token,tokensByField,tokens,node_without member]
  rfl

theorem text_without (member : n ∈ t.kept cut) : (t.without cut).text (t.place cut n) = t.text n := by
  rw [text,span,node_without member]
  rfl

end Places

section Links

theorem stays_iff (shape : t.Preordered) : t.stays cut n = true ↔ ∀ a, t.AtOrAbove a n → cut a = false := by
  simp only [stays,List.all_cons,Bool.and_eq_true,List.all_eq_true,mem_ancestors shape,Bool.not_eq_true',AtOrAbove,
    reflTransGen_iff_eq_or_transGen]
  constructor
  · intro whole a chain
    rcases chain with same | above
    · exact same ▸ whole.1
    · exact whole.2 a above
  · intro all
    exact ⟨all n (.inl rfl),fun a above => all a (.inr above)⟩

theorem stays_above (shape : t.Preordered) (chain : t.AtOrAbove a n) (stay : t.stays cut n = true) :
    t.stays cut a = true := by
  apply (stays_iff shape).mpr
  intro b upper
  exact (stays_iff shape).mp stay b (upper.trans chain)

theorem kept_above (shape : t.Preordered) (chain : t.AtOrAbove a n) (member : n ∈ t.kept cut) : a ∈ t.kept cut := by
  obtain ⟨inside,stay⟩ := mem_kept.mp member
  exact mem_kept.mpr ⟨Nat.lt_of_le_of_lt (AtOrAbove.le shape chain) inside,stays_above shape chain stay⟩

theorem parent_without (member : n ∈ t.kept cut) :
    (t.without cut).parent (t.place cut n) = (t.parent n).map (t.place cut) := by
  rw [parent,node_without member]
  rfl

theorem isParent_without (member : n ∈ t.kept cut) :
    (t.without cut).IsParent q (t.place cut n) ↔ ∃ p, t.IsParent p n ∧ t.place cut p = q := by
  rw [IsParent,parent_without member]
  exact Option.map_eq_some_iff

theorem isChild_without (shape : t.Preordered) (stay : t.stays cut p = true) (member : n ∈ t.kept cut) :
    (t.without cut).isChild (t.place cut p) (t.place cut n) = t.isChild p n := by
  apply Bool.eq_iff_iff.mpr
  rw [isChild_iff,isChild_iff,isParent_without member]
  constructor
  · rintro ⟨q,link,same⟩
    have other := (mem_kept.mp (kept_above shape (.single link) member)).2
    exact place_inj other stay same ▸ link
  · intro link
    exact ⟨p,link,rfl⟩

-- What is above a node that stays, stays; so the chains upward are the same.
theorem atOrAbove_without (shape : t.Preordered) (member : n ∈ t.kept cut) :
    (t.without cut).AtOrAbove q (t.place cut n) ↔ ∃ a, t.AtOrAbove a n ∧ t.place cut a = q := by
  constructor
  · generalize last : t.place cut n = e
    intro chain
    induction chain generalizing n with
    | refl => exact ⟨n,.refl,last⟩
    | tail _ link ih =>
      rw [← last] at link
      obtain ⟨p,up,same⟩ := (isParent_without member).mp link
      obtain ⟨a,chain,here⟩ := ih (kept_above shape (.single up) member) same
      exact ⟨a,chain.tail up,here⟩
  · rintro ⟨a,chain,rfl⟩
    induction chain with
    | refl => exact .refl
    | @tail p n _ link ih =>
      have upper := ih (kept_above shape (.single link) member)
      exact upper.tail ((isParent_without member).mpr ⟨p,link,rfl⟩)

theorem above_without (shape : t.Preordered) (member : n ∈ t.kept cut) :
    (t.without cut).Above q (t.place cut n) ↔ ∃ a, t.Above a n ∧ t.place cut a = q := by
  constructor
  · intro above
    obtain ⟨r,chain,link⟩ := TransGen.tail'_iff.mp above
    obtain ⟨p,up,rfl⟩ := (isParent_without member).mp link
    obtain ⟨a,lower,same⟩ := (atOrAbove_without shape (kept_above shape (.single up) member)).mp chain
    exact ⟨a,.tail' lower up,same⟩
  · rintro ⟨a,above,same⟩
    obtain ⟨p,chain,up⟩ := TransGen.tail'_iff.mp above
    have upper := (atOrAbove_without shape (kept_above shape (.single up) member)).mpr ⟨a,chain,same⟩
    exact .tail' upper ((isParent_without member).mpr ⟨p,up,rfl⟩)

end Links

section Shape

-- The node before one that stays is, in the smaller tree, the last that stays before it. Both have the same nodes
-- above them as far as the stretch below a parent has no gaps.
theorem linked_without (shape : t.Preordered) (later : 0 < q) (inside : q < (t.without cut).size) :
    ∃ p : Nat, (t.without cut).parent q = some p ∧ (t.without cut).AtOrAbove p (q - 1) := by
  obtain ⟨n,member,rfl⟩ := exists_place inside
  obtain ⟨m,before,previous⟩ := @exists_place t cut (t.place cut n - 1) (by omega)
  obtain ⟨known,stay⟩ := mem_kept.mp member
  have positive : 0 < n := by
    apply Nat.pos_of_ne_zero
    intro first
    rw [first] at later
    exact absurd later (Nat.lt_irrefl 0)
  obtain ⟨p,link,_⟩ := shape.linked n positive known
  have upper := kept_above shape (.single link) member
  have order : m < n := by
    apply Nat.lt_of_not_le
    intro beyond
    have numbers : t.place cut n ≤ t.place cut m := place_mono beyond
    omega
  have bound : p ≤ m := by
    apply Nat.le_of_not_lt
    intro beyond
    have one := place_lt beyond (mem_kept.mp before).2
    have two := place_lt (shape.parent_lt link) (mem_kept.mp upper).2
    omega
  have chain : t.AtOrAbove p m := between shape (.single link) bound (Nat.le_of_lt order) known
  refine ⟨t.place cut p,(isParent_without member).mpr ⟨p,link,rfl⟩,?_⟩
  rw [← previous]
  exact (atOrAbove_without shape before).mpr ⟨p,chain,rfl⟩

theorem listed_without (shape : t.Preordered) (inside : q < (t.without cut).size) :
    (t.without cut).children q =
      (List.range (t.without cut).size).filter ((t.without cut).isChild q) := by
  obtain ⟨p,member,rfl⟩ := exists_place inside
  obtain ⟨known,stay⟩ := mem_kept.mp member
  have among : (t.children p).filter (t.stays cut) = (t.kept cut).filter (t.isChild p) := by
    rw [shape.listed p known,kept,List.filter_filter,List.filter_filter]
    exact List.filter_congr fun n _ => Bool.and_comm _ _
  have own : (t.without cut).children (t.place cut p) = ((t.children p).filter (t.stays cut)).map (t.place cut) := by
    rw [children,node_without member]
    rfl
  rw [own,among,size_without,← kept_places,List.filter_map]
  congr 1
  apply List.filter_congr
  intro n other
  exact (isChild_without shape stay other).symm

theorem without_wellFormed (wf : t.WellFormed) (rooted : cut root = false) : (t.without cut).WellFormed := by
  have shape := wf.toPreordered
  have member : root ∈ t.kept cut := by
    refine mem_kept.mpr ⟨wf.rooted,(stays_iff shape).mpr fun a chain => ?_⟩
    have first : a = root := Nat.le_zero.mp (AtOrAbove.le shape chain)
    exact first ▸ rooted
  have first : t.place cut root = root := rfl
  refine ⟨⟨?_,fun q => linked_without shape,fun q => listed_without shape⟩,?_⟩
  · have top := parent_without member
    rwa [shape.top,first] at top
  · have inside := place_inside member
    exact Nat.lt_of_le_of_lt (Nat.zero_le _) inside

end Shape

section Counts
variable {barriers : List String} {counts counts' : NodeId → Bool}

theorem exposed_without (shape : t.Preordered) (member : d ∈ t.kept cut) (known : c ∈ t.kept cut) :
    (t.without cut).Exposed barriers (t.place cut c) (t.place cut d) ↔ t.Exposed barriers c d := by
  have same {a : Nat} (chain : t.AtOrAbove a d) (number : t.place cut a = t.place cut c) : a = c :=
    place_inj (stays_above shape chain (mem_kept.mp member).2) (mem_kept.mp known).2 number
  constructor
  · rintro ⟨below,clear⟩
    obtain ⟨b,above,number⟩ := (above_without shape member).mp below
    obtain rfl := same above.to_reflTransGen number
    refine ⟨above,fun m later chain => ?_⟩
    have inner := kept_above shape chain member
    have free := clear (t.place cut m) ((above_without shape inner).mpr ⟨b,later,rfl⟩)
      ((atOrAbove_without shape member).mpr ⟨m,chain,rfl⟩)
    rwa [kind_without inner] at free
  · rintro ⟨below,clear⟩
    refine ⟨(above_without shape member).mpr ⟨c,below,rfl⟩,?_⟩
    intro q later chain
    obtain ⟨m,inner,rfl⟩ := (atOrAbove_without shape member).mp chain
    have among := kept_above shape inner member
    obtain ⟨b,above,number⟩ := (above_without shape among).mp later
    obtain rfl := same (above.to_reflTransGen.trans inner) number
    rw [kind_without among]
    exact clear m above inner

-- What counts in the smaller tree is what counts in the larger one and stays.
theorem counted_without (shape : t.Preordered) (known : c ∈ t.kept cut)
    (alike : ∀ d ∈ t.kept cut, t.Above c d → counts' (t.place cut d) = counts d) :
    (t.without cut).counted barriers counts' (t.place cut c) =
      t.place cut '' { d ∈ t.counted barriers counts c | t.stays cut d = true } := by
  ext q
  constructor
  · rintro ⟨exposed,hit⟩
    obtain ⟨d,member,rfl⟩ := exists_place exposed.below.inside
    have here := (exposed_without shape member known).mp exposed
    rw [alike d member here.below] at hit
    exact ⟨d,⟨⟨here,hit⟩,(mem_kept.mp member).2⟩,rfl⟩
  · rintro ⟨d,⟨⟨exposed,hit⟩,stay⟩,rfl⟩
    have member := mem_kept.mpr ⟨exposed.below.inside,stay⟩
    refine ⟨(exposed_without shape member known).mpr exposed,?_⟩
    rwa [alike d member exposed.below]

theorem countBelow_without (wf : t.WellFormed) (rooted : cut root = false) (known : c ∈ t.kept cut)
    (alike : ∀ d ∈ t.kept cut, t.Above c d → counts' (t.place cut d) = counts d) :
    t.countBelow c barriers counts = (t.without cut).countBelow (t.place cut c) barriers counts' +
      { d ∈ t.counted barriers counts c | t.stays cut d = false }.ncard := by
  have shape := wf.toPreordered
  have finite := t.counted_finite barriers counts c
  have whole : { d ∈ t.counted barriers counts c | t.stays cut d = true } ∪
      { d ∈ t.counted barriers counts c | t.stays cut d = false } = t.counted barriers counts c := by
    ext d
    cases stay : t.stays cut d <;> simp [stay]
  have apart : Disjoint { d ∈ t.counted barriers counts c | t.stays cut d = true }
      { d ∈ t.counted barriers counts c | t.stays cut d = false } := by
    apply Set.disjoint_left.mpr
    intro d stay gone
    have both := stay.2.symm.trans gone.2
    cases both
  have images : Set.InjOn (t.place cut) { d ∈ t.counted barriers counts c | t.stays cut d = true } :=
    fun m one n two same => place_inj one.2 two.2 same
  rw [t.countBelow_ncard shape,(t.without cut).countBelow_ncard (without_wellFormed wf rooted).toPreordered,
    counted_without shape known alike,images.ncard_image,
    ← Set.ncard_union_eq apart (finite.subset (Set.sep_subset _ _)) (finite.subset (Set.sep_subset _ _)),whole]

end Counts

end TreeAudit.Tree
