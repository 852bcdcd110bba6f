import TreeAudit.Proofs.Tree.Ancestry
import TreeAudit.Proofs.Tree.Building
import TreeAudit.Proofs.Tree.Iterators

-- Walks with a callback. Each call is made in document order, with the state that the calls before have left, on
-- every node that no skip hides, until one call stops the walk; and the loop comes to what recursion comes to.
namespace TreeAudit.Tree
variable {t : Tree} {n e hi k lo m : Nat}

-- The stack of a walk after an answer. A walk that is stopped drops what is pending.
def pending (t : Tree) (n : NodeId) (stack : List NodeId) : Visit → List NodeId
  | .stop => []
  | .skip => stack
  | .descend => t.children n ++ stack

-- A turn of a walk yields the call of the callback together with its answer.
def walkTurn (t : Tree) (visit : σ → NodeId → σ × Visit) :
    σ × List NodeId → Option (List (NodeId × Visit) × σ × List NodeId)
  | (_,[]) => none
  | (s,n :: stack) => some ([(n,(visit s n).2)],(visit s n).1,t.pending n stack (visit s n).2)

def completed (calls : List (NodeId × Visit)) : Bool := calls.all (·.2 ≠ .stop)

section Walk
variable {σ : Type u} {visit : σ → NodeId → σ × Visit} {s : σ} {stack : List NodeId}
  {calls : List (NodeId × Visit)} {answer : Visit} {state last : σ × List NodeId}

-- As long as no call is answered by a stop, the walk goes on from where the turns have led.
theorem walkFrom_turns (turns : Turns (t.walkTurn visit) state k calls last) (j : Nat) :
    t.walkFrom visit (k + j) state.1 state.2 =
      if completed calls then t.walkFrom visit j last.1 last.2 else (last.1,false) := by
  induction turns with
  | none => rw [Nat.zero_add,completed,List.all_nil,if_pos rfl]
  | @more state k _ _ _ _ next more ih =>
    obtain ⟨s,_ | ⟨n,stack⟩⟩ := state
    · cases next
    · cases next
      rw [Nat.add_right_comm,walkFrom]
      dsimp only at ih ⊢
      generalize visit s n = called at ih more ⊢
      obtain ⟨after,answer⟩ := called
      cases answer with
      | skip => exact ih
      | descend => exact ih
      | stop =>
        cases more with
        | none => rfl
        | more next _ => cases next

-- Walks from several nodes, one after the other until one is stopped.
def walkEach (t : Tree) (visit : σ → NodeId → σ × Visit) (r : σ × Bool) (ns : List NodeId) : σ × Bool :=
  ns.foldl (fun r n => if r.2 then t.walk n visit r.1 else r) r

theorem walkEach_stopped (ns : List NodeId) : t.walkEach visit (s,false) ns = (s,false) := by
  induction ns with
  | nil => rfl
  | cons n ns ih => exact ih

-- What a walk from a node comes to, by recursion over its children.
def walkBelow (t : Tree) (visit : σ → NodeId → σ × Visit) (s : σ) (n : NodeId) : σ × Bool :=
  match visit s n with
  | (s,.stop) => (s,false)
  | (s,.skip) => (s,true)
  | (s,.descend) => t.walkEach visit (s,true) (t.children n)

theorem walk_of_children (inside : n < t.size) (below : ∀ (s : σ) (steps : Nat), t.size ≤ steps + 1 →
    t.walkFrom visit steps s (t.children n) = t.walkEach visit (s,true) (t.children n)) :
    t.walk n visit s = t.walkBelow visit s n := by
  obtain ⟨steps,size⟩ : ∃ k, t.size = k + 1 := ⟨t.size - 1,by omega⟩
  rw [walk,size,walkFrom,walkBelow]
  obtain ⟨after,answer⟩ := visit s n
  cases answer with
  | stop => rfl
  | skip => cases steps <;> rfl
  | descend =>
    dsimp only
    rw [List.append_nil]
    exact below after steps (Nat.le_of_eq size)

-- By induction on the ids that the stack covers: a node that is descended into hands its stretch to its children.
theorem walkFrom_covers (shape : t.Preordered) (visit : σ → NodeId → σ × Visit) (left : Nat) :
    ∀ lo stack, t.Covers lo stack hi → hi - lo = left → ∀ (s : σ) (steps : Nat), left ≤ steps →
      t.walkFrom visit steps s stack = t.walkEach visit (s,true) stack := by
  induction left using Nat.strongRecOn generalizing hi with
  | ind left ih =>
    intro lo stack covers size s steps enough
    cases covers with
    | nil => cases steps <;> rfl
    | @cons _ e rest _ stretch later =>
      have follows := stretch.1
      have bound := later.le
      have within := stretch.2.1
      have alone : t.walk lo visit s = t.walkBelow visit s lo :=
        walk_of_children stretch.inside fun s steps large =>
          ih (e - (lo + 1)) (by omega) _ _ (covers_children shape stretch) rfl s steps (by omega)
      obtain ⟨steps,rfl⟩ : ∃ k, steps = k + 1 := ⟨steps - 1,by omega⟩
      have first : t.walkEach visit (s,true) (lo :: rest) = t.walkEach visit (t.walkBelow visit s lo) rest :=
        congrArg (fun r => t.walkEach visit r rest) alone
      rw [first,walkFrom,walkBelow]
      obtain ⟨after,answer⟩ := visit s lo
      cases answer with
      | stop => exact walkEach_stopped rest |>.symm
      | skip => exact ih (hi - e) (by omega) _ _ later rfl after steps (by omega)
      | descend =>
        have whole := ih (hi - (lo + 1)) (by omega) _ _ ((covers_children shape stretch).append later) rfl after
          steps (by omega)
        rw [walkEach,List.foldl_append] at whole
        exact whole

theorem walk_eq (shape : t.Preordered) (inside : n < t.size) : t.walk n visit s = t.walkBelow visit s n := by
  obtain ⟨e,stretch⟩ := exists_stretch shape inside
  have within := stretch.2.1
  exact walk_of_children inside fun s steps large =>
    walkFrom_covers shape visit _ _ _ (covers_children shape stretch) rfl s steps (by omega)

-- No node above was answered by a skip.
def reached (t : Tree) (calls : List (NodeId × Visit)) (n : NodeId) : Bool :=
  (t.ancestors n).all fun a => (a,.skip) ∉ calls

-- The calls of a walk over some nodes: in their order those that are reached, and all of them unless the walk is
-- stopped, which only the last call can do.
structure Walked (t : Tree) (nodes : List NodeId) (calls : List (NodeId × Visit)) : Prop where
  order : calls.map Prod.fst <+: nodes.filter (t.reached calls)
  last : ∀ before n after, calls = before ++ (n,.stop) :: after → after = []
  whole : completed calls = true → calls.map Prod.fst = nodes.filter (t.reached calls)

theorem reached_iff (shape : t.Preordered) :
    t.reached calls m = true ↔ ∀ a, t.Above a m → (a,.skip) ∉ calls := by
  simp only [reached,List.all_eq_true,mem_ancestors shape,decide_eq_true_iff]

theorem reached_cons (shape : t.Preordered) : t.reached ((n,answer) :: calls) m = true ↔
    ¬ (answer = .skip ∧ t.Above n m) ∧ t.reached calls m = true := by
  rw [reached_iff shape,reached_iff shape]
  constructor
  · intro clear
    refine ⟨fun ⟨skipped,above⟩ => clear n above (skipped ▸ List.mem_cons_self),fun a above member => ?_⟩
    exact clear a above (List.mem_cons_of_mem _ member)
  · rintro ⟨open_,clear⟩ a above member
    rcases List.mem_cons.mp member with same | later
    · cases same
      exact open_ ⟨rfl,above⟩
    · exact clear a above later

theorem Walked.among (walked : t.Walked (List.range' lo k) calls) : ∀ c ∈ calls, lo ≤ c.1 := by
  intro c member
  have within := walked.order.subset (List.mem_map_of_mem member)
  exact (List.mem_range'_1.mp (List.mem_of_mem_filter within)).1

theorem reached_low (shape : t.Preordered) (among : ∀ c ∈ calls, n ≤ c.1) : t.reached calls n = true := by
  refine (reached_iff shape).mpr fun a above member => ?_
  have low := Above.lt shape above
  have high := among _ member
  omega

theorem Walked.stopped (shape : t.Preordered) (nodes : List NodeId) : t.Walked (n :: nodes) [(n,.stop)] := by
  have here : t.reached [(n,.stop)] n = true := reached_low shape (List.forall_mem_singleton.mpr (Nat.le_refl n))
  refine ⟨?_,?_,fun goes => by cases goes⟩
  · rw [List.filter_cons_of_pos here]
    exact ⟨_,rfl⟩
  · intro before m after same
    cases before with
    | nil => exact (List.cons.inj same).2.symm
    | cons c before => exact absurd (List.cons.inj same).2.symm (by simp)

-- A call that does not stop the walk, what it leaves out, and the calls that follow.
theorem Walked.further {between nodes : List NodeId} (walked : t.Walked nodes calls) (goes : answer ≠ .stop)
    (here : t.reached ((n,answer) :: calls) n = true)
    (dropped : ∀ m ∈ between, t.reached ((n,answer) :: calls) m = false)
    (same : ∀ m ∈ nodes, t.reached ((n,answer) :: calls) m = t.reached calls m) :
    t.Walked (n :: (between ++ nodes)) ((n,answer) :: calls) := by
  have none : between.filter (t.reached ((n,answer) :: calls)) = [] :=
    List.filter_eq_nil_iff.mpr fun m member => Bool.eq_false_iff.mp (dropped m member)
  have kept : (n :: (between ++ nodes)).filter (t.reached ((n,answer) :: calls)) =
      n :: nodes.filter (t.reached calls) := by
    rw [List.filter_cons_of_pos here,List.filter_append,none,List.nil_append,List.filter_congr same]
  refine ⟨?_,?_,fun complete => ?_⟩
  · rw [kept,List.map_cons,List.cons_prefix_cons]
    exact ⟨rfl,walked.order⟩
  · intro before m after split
    cases before with
    | nil => exact absurd (congrArg Prod.snd (List.cons.inj split).1) goes
    | cons c before => exact walked.last before m after (List.cons.inj split).2
  · rw [kept,List.map_cons,walked.whole (Bool.and_eq_true_iff.mp complete).2]

theorem Walked.skipped (shape : t.Preordered) (stretch : t.Stretch n e) (upto : e ≤ hi)
    (walked : t.Walked (List.range' e (hi - e)) calls) :
    t.Walked (List.range' n (hi - n)) ((n,.skip) :: calls) := by
  have follows := stretch.1
  have within := stretch.2.1
  have split : List.range' n (hi - n) = n :: (List.range' (n + 1) (e - (n + 1)) ++ List.range' e (hi - e)) := by
    have first : hi - n = e - (n + 1) + (hi - e) + 1 := by omega
    have next : n + 1 + (e - (n + 1)) = e := by omega
    rw [first,List.range'_succ,← List.range'_append_1,next]
  have below : ∀ m, m < t.size → (t.Above n m ↔ n < m ∧ m < e) := by
    intro m inside
    constructor
    · intro above
      have range := (stretch.2.2 m inside).mp above.to_reflTransGen
      exact ⟨Above.lt shape above,range.2⟩
    · rintro ⟨later,before⟩
      exact AtOrAbove.above ((stretch.2.2 m inside).mpr ⟨Nat.le_of_lt later,before⟩) (Nat.ne_of_lt later)
  rw [split]
  refine walked.further (by decide) ?_ ?_ ?_
  · refine reached_low shape (List.forall_mem_cons.mpr ⟨Nat.le_refl n,fun c member => ?_⟩)
    exact Nat.le_trans (Nat.le_of_lt follows) (walked.among c member)
  · intro m member
    obtain ⟨start,stop⟩ := List.mem_range'_1.mp member
    rw [Bool.eq_false_iff]
    intro open_
    exact ((reached_cons shape).mp open_).1 ⟨rfl,(below m (by omega)).mpr ⟨by omega,by omega⟩⟩
  · intro m member
    obtain ⟨start,_⟩ := List.mem_range'_1.mp member
    refine Bool.eq_iff_iff.mpr ((reached_cons shape).trans (and_iff_right ?_))
    rintro ⟨_,above⟩
    have range := (below m above.inside).mp above
    omega

theorem Walked.descended (shape : t.Preordered) (before : n < hi)
    (walked : t.Walked (List.range' (n + 1) (hi - (n + 1))) calls) :
    t.Walked (List.range' n (hi - n)) ((n,.descend) :: calls) := by
  have split : hi - n = hi - (n + 1) + 1 := by omega
  rw [split,List.range'_succ,← List.nil_append (List.range' _ _)]
  refine walked.further (by decide) ?_ nofun fun m _ => ?_
  · refine reached_low shape (List.forall_mem_cons.mpr ⟨Nat.le_refl n,fun c member => ?_⟩)
    exact Nat.le_of_succ_le (walked.among c member)
  · refine Bool.eq_iff_iff.mpr ((reached_cons shape).trans (and_iff_right ?_))
    rintro ⟨other,_⟩
    cases other

theorem Walked.nothing : t.Walked [] [] := ⟨⟨[],rfl⟩,by simp,fun _ => rfl⟩

-- The walk pops the node at the low end; the answer decides which stretch is covered by what is pending.
theorem walkTurn_covers (shape : t.Preordered) (visit : σ → NodeId → σ × Visit) (bound : Nat) :
    ∀ lo stack, t.Covers lo stack hi → hi - lo ≤ bound → ∀ s : σ, ∃ calls last,
      Loops (t.walkTurn visit) (s,stack) bound calls last ∧ t.Walked (List.range' lo (hi - lo)) calls := by
  induction bound with
  | zero =>
    intro lo stack covers enough s
    cases covers with
    | nil =>
      rw [Nat.sub_self]
      exact ⟨_,_,.ended rfl,.nothing⟩
    | cons stretch later =>
      have follows := stretch.1
      have upto := later.le
      omega
  | succ bound ih =>
    intro lo stack covers enough s
    cases covers with
    | nil =>
      rw [Nat.sub_self]
      exact ⟨_,_,.ended rfl,.nothing⟩
    | @cons _ e rest _ stretch later =>
      have follows := stretch.1
      have upto := later.le
      have turn : t.walkTurn visit (s,lo :: rest) =
        some ([(lo,(visit s lo).2)],(visit s lo).1,t.pending lo rest (visit s lo).2) := rfl
      cases answer : (visit s lo).2 with
      | stop =>
        rw [answer] at turn
        have split : hi - lo = hi - (lo + 1) + 1 := by omega
        rw [split,List.range'_succ]
        exact ⟨_,_,Loops.turned turn (.ended rfl),.stopped shape _⟩
      | skip =>
        rw [answer] at turn
        obtain ⟨calls,last,loops,walked⟩ := ih e rest later (by omega) (visit s lo).1
        exact ⟨_,_,Loops.turned turn loops,walked.skipped shape stretch upto⟩
      | descend =>
        rw [answer] at turn
        obtain ⟨calls,last,loops,walked⟩ := ih (lo + 1) _ ((covers_children shape stretch).append later) (by omega)
          (visit s lo).1
        exact ⟨_,_,Loops.turned turn loops,walked.descended shape (by omega)⟩

theorem walk_loops (shape : t.Preordered) (inside : n < t.size) (visit : σ → NodeId → σ × Visit) (s : σ) :
    ∃ calls last, Loops (t.walkTurn visit) (s,[n]) t.size calls last ∧ t.walk n visit s = (last.1,completed calls) ∧
      t.Walked (t.descendantsOrSelf n) calls := by
  obtain ⟨e,stretch⟩ := exists_stretch shape inside
  have within := stretch.2.1
  obtain ⟨calls,last,loops,walked⟩ :=
    walkTurn_covers shape visit t.size n [n] (.cons stretch .nil) (by omega) s
  rw [← descendantsOrSelf_stretch shape stretch] at walked
  refine ⟨calls,last,loops,?_,walked⟩
  obtain ⟨⟨k,few,turns⟩,ended⟩ := loops
  obtain ⟨after,_ | ⟨m,stack⟩⟩ := last
  · have enough : t.size = k + (t.size - k) := by omega
    rw [walk,enough,walkFrom_turns turns]
    cases completed calls with
    | true => cases t.size - k <;> rfl
    | false => rfl
  · cases ended

end Walk

-- The three walks from a node: each loop ends, and comes to what recursion over the children comes to.
structure Traversed {σ : Type u} (t : Tree) (n : NodeId) (visit : σ → NodeId → σ × Visit) (s : σ) : Prop where
  pre : Loops t.preTurn [n] t.size (t.descendantsOrSelf n) []
  pre_children : t.descendantsOrSelf n = n :: (t.children n).flatMap t.descendantsOrSelf
  pre_members : ∀ m : Nat, m ∈ t.descendantsOrSelf n ↔ t.AtOrAbove n m
  pre_ascending : (t.descendantsOrSelf n).Pairwise (· < ·)
  post : Loops t.postTurn [(n,false)] (2 * t.size) (t.postOrder n) []
  post_children : t.postOrder n = (t.children n).flatMap t.postOrder ++ [n]
  post_members : (t.postOrder n).Perm (t.descendantsOrSelf n)
  walk_children : t.walk n visit s = t.walkBelow visit s n
  walk : ∃ calls last, Loops (t.walkTurn visit) (s,[n]) t.size calls last ∧
    t.walk n visit s = (last.1,completed calls) ∧ t.Walked (t.descendantsOrSelf n) calls

theorem traversed_built {σ : Type u} (built : t.Built) (inside : n < t.size) (visit : σ → NodeId → σ × Visit)
    (s : σ) : t.Traversed n visit s := by
  have shape := built.wellFormed.toPreordered
  have few := descendantsOrSelf_length shape inside
  constructor
  case pre =>
    obtain ⟨k,small,turns⟩ := preTurn_yields shape inside []
    exact ⟨⟨k,by omega,turns⟩,rfl⟩
  case pre_children => exact descendantsOrSelf_eq shape inside
  case pre_members => exact fun m => mem_descendantsOrSelf shape inside
  case pre_ascending =>
    obtain ⟨e,stretch⟩ := exists_stretch shape inside
    rw [descendantsOrSelf_stretch shape stretch]
    exact List.pairwise_lt_range'
  case post =>
    obtain ⟨k,small,turns⟩ := (postTurn_yields shape n inside).1 []
    exact ⟨⟨k,by omega,turns⟩,rfl⟩
  case post_children => exact (postTurn_yields shape n inside).2
  case post_members => exact postOrder_perm shape n inside
  case walk_children => exact walk_eq shape inside
  case walk => exact walk_loops shape inside visit s

-- The first method is skipped with its body, and the walk is stopped at the second one.
theorem traversed_built_sample :
    let visit := fun (seen : List NodeId) (n : NodeId) =>
      (seen ++ [n],if n = 1 then Visit.skip else if n = 3 then Visit.stop else Visit.descend)
    sample.Built ∧ root < sample.size ∧ sample.Traversed root visit [] ∧
      sample.walk root visit [] = ([0,1,3],false) ∧ sample.postOrder root = [2,1,3,0] :=
  ⟨sample_built,by decide +kernel,traversed_built sample_built (by decide +kernel) _ [],by decide +kernel,
    by decide +kernel⟩

end TreeAudit.Tree
