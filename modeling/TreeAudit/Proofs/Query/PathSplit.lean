import TreeAudit.Proofs.Query.RoundTrip
import TreeAudit.Proofs.Query.SelfStep

-- Splitting a path. The steps up to some place can be put in parentheses, as a path of their own from which
-- the other steps go on. A value holds items only, so the document must have been left by then: it stays
-- among the places only as long as each step is a bare `descendant-or-self` step.
namespace TreeAudit.Query

-- Whether a path starts above the root.
def Origin.FromDocument (c : Context) : Origin → Prop
  | .document => True
  | .focus => c.focus = .document
  | .value _ => False

section Evaluation
variable {s : Setting} {c : Context} {origin : Origin} {step : Step} {steps : List Step}
  {places reached : List Place}

theorem places_below (below : ¬origin.FromDocument c) (start : origin.places s c = .ok places) :
    .document ∉ places := by
  cases origin with
  | document => exact absurd trivial below
  | focus =>
    rw [Origin.places] at start
    cases start
    exact fun member => below (List.mem_singleton.mp member).symm
  | value e =>
    rw [Origin.places] at start
    obtain ⟨items,_,done⟩ := bind_ok start
    cases done
    simp

theorem keepsDocument_downward (keeps : step.keepsDocument places = true) :
    step = Step.downward ∧ .document ∈ places := by
  obtain ⟨axis,test,predicates⟩ := step
  simp only [Step.keepsDocument,Bool.and_eq_true,decide_eq_true_eq,List.isEmpty_iff,
    List.contains_iff_mem] at keeps
  obtain ⟨⟨⟨rfl,rfl⟩,rfl⟩,member⟩ := keeps
  exact ⟨rfl,member⟩

theorem step_leaves (leaves : .document ∈ places → step ≠ Step.downward)
    (done : step.eval s places = .ok reached) : .document ∉ reached := by
  have gone : step.keepsDocument places = false := by
    rw [Bool.eq_false_iff]
    intro keeps
    obtain ⟨bare,member⟩ := keepsDocument_downward keeps
    exact leaves member bare
  obtain ⟨axis,test,predicates⟩ := step
  rw [Step.eval,gone] at done
  obtain ⟨selected,_,last⟩ := bind_ok done
  cases last
  simp [placesAfter]

-- By induction on the steps: the document is left at the first step that is not bare, and no step leads
-- back to it.
theorem evalSteps_leaves (leaves : .document ∈ places → ∃ step ∈ steps, step ≠ Step.downward)
    (done : evalSteps s steps places = .ok reached) : .document ∉ reached := by
  induction steps generalizing places with
  | nil =>
    cases done
    exact fun member => nomatch leaves member
  | cons step steps ih =>
    rw [evalSteps] at done
    obtain ⟨next,stepped,later⟩ := bind_ok done
    refine ih (fun stays => ?_) later
    by_contra bare
    refine step_leaves (fun member => ?_) stepped stays
    obtain ⟨other,among,different⟩ := leaves member
    rcases List.mem_cons.mp among with rfl | behind
    · exact different
    · exact absurd ⟨other,behind,different⟩ bare

theorem places_of_items (none : .document ∉ places) :
    (places.filterMap Place.item?).map Place.item = places := by
  induction places with
  | nil => rfl
  | cons p places ih =>
    have later := ih fun member => none (List.mem_cons_of_mem p member)
    cases p with
    | document => exact absurd List.mem_cons_self none
    | item i => exact congrArg (Place.item i :: ·) later

-- Where the steps before the split end, the steps behind it start: at the same places, or at none in the
-- same failure.
theorem split_eval (before after : List Step)
    (leaves : origin.FromDocument c → ∃ step ∈ before, step ≠ Step.downward) :
    (Expr.path origin (before ++ after)).eval s c =
      (Expr.path (.value (.path origin before)) after).eval s c := by
  cases start : origin.places s c with
  | error f => rw [Expr.eval,Expr.eval,Origin.places,Expr.eval,start]; rfl
  | ok places =>
    have first := path_eval start before
    rw [path_eval start,evalSteps_append]
    cases done : evalSteps s before places with
    | error f =>
      rw [done] at first
      rw [Expr.eval,Origin.places,first]
      rfl
    | ok reached =>
      have none : .document ∉ reached := by
        refine evalSteps_leaves (fun member => ?_) done
        by_contra bare
        exact places_below (fun above => bare (leaves above)) start member
      rw [done] at first
      have again : (Origin.value (.path origin before)).places s c = .ok reached := by
        rw [Origin.places,first]
        exact congrArg Except.ok (places_of_items none)
      rw [path_eval again]
      rfl

end Evaluation

section Printing
variable {v : Vocabulary} {constant : Value → Prop} {origin : Origin} {before after : List Step}

theorem printSteps_append (before after : List Step) :
    printSteps (before ++ after) = printSteps before ++ printSteps after := by
  induction before with
  | nil => rfl
  | cons step before ih =>
    rw [List.cons_append,printSteps,printSteps,ih,List.cons_append,List.append_assoc]

theorem flat_print (some : before ≠ []) : (Expr.path origin (before ++ after)).print =
    (Expr.path origin before).print ++ printSteps after := by
  rw [Expr.print,Expr.print,printSteps_append]
  cases origin with
  | document => rfl
  | focus =>
    obtain ⟨step,rest,rfl⟩ := List.exists_cons_of_ne_nil some
    rw [Origin.print,Origin.print,printSteps]
    rfl
  | value e => rw [Origin.print,Origin.print,List.append_assoc]

theorem split_print : (Expr.path (.value (.path origin before)) after).print =
    .leftParen :: ((Expr.path origin before).print ++ [.rightParen]) ++ printSteps after := by
  rw [Expr.print,Origin.print]
  rfl

theorem split_compiled (some : before ≠ []) (more : after ≠ [])
    (compiled : (Expr.path origin (before ++ after)).Compiled v constant) :
    (Expr.path (.value (.path origin before)) after).Compiled v constant := by
  have inner : ∀ step ∈ before ++ after, step.Compiled v constant := fun step among p member =>
    compiled.part (List.mem_append_right _ (List.mem_flatMap.mpr ⟨step,among,member⟩))
  refine compiled_path more ?_ fun step among => inner step (List.mem_append_right _ among)
  refine List.forall_mem_singleton.mpr (compiled_path some ?_ fun step among => ?_)
  · exact fun p member => compiled.part (List.mem_append_left _ member)
  · exact inner step (List.mem_append_left _ among)

end Printing

-- A path and the same path with its first steps in parentheses have the same value or the same failure,
-- wherever the path is split and whatever the steps are, unless the document can still be among the
-- places at the split. Written down, the two differ in the parentheses alone.
theorem split_path_law (s : Setting) :
    (∀ origin before after c, (Origin.FromDocument c origin → ∃ step ∈ before, step ≠ Step.downward) →
      (Expr.path origin (before ++ after)).eval s c =
        (Expr.path (.value (.path origin before)) after).eval s c) ∧
    ∀ l ∈ Registry.builtIn.languages, ∀ bindings origin before after, before ≠ [] → after ≠ [] →
      (Expr.path origin (before ++ after)).Compiled ⟨l,bindings⟩ Value.Literal →
      ∀ flat split : List Token,
        flat.map Token.symbol = (Expr.path origin before).print ++ printSteps after ++ [.finish] →
        split.map Token.symbol =
          .leftParen :: ((Expr.path origin before).print ++ [.rightParen]) ++ printSteps after ++ [.finish] →
        parse ⟨l,bindings⟩ flat = .ok (.path origin (before ++ after)) ∧
          parse ⟨l,bindings⟩ split = .ok (.path (.value (.path origin before)) after) := by
  refine ⟨fun origin before after c => split_eval before after,?_⟩
  intro l builtIn bindings origin before after some more compiled flat split written enclosed
  rw [← flat_print some] at written
  rw [← split_print] at enclosed
  exact ⟨parse_print builtIn compiled written,
    parse_print builtIn (split_compiled some more compiled) enclosed⟩

-- A path from the document to the blocks of all methods, split in front of its last step.
theorem split_path_law_sample :
    let before : List Step := [Step.downward,.mk .child (.name "MethodDeclaration") []]
    let after : List Step := [.mk .child (.name "Block") []]
    let s : Setting := ⟨sample,Java.language⟩
    let flat := (Expr.path .document before).print ++ printSteps after ++ [.finish]
    let split := .leftParen :: ((Expr.path .document before).print ++ [.rightParen]) ++ printSteps after ++
      [.finish]
    (∃ step ∈ before, step ≠ Step.downward) ∧
      (Expr.path .document (before ++ after)).eval s Context.document =
        (Expr.path (.value (.path .document before)) after).eval s Context.document ∧
      parse ⟨Java.language,[]⟩ (flat.map (⟨·,0⟩)) = .ok (.path .document (before ++ after)) ∧
      parse ⟨Java.language,[]⟩ (split.map (⟨·,0⟩)) = .ok (.path (.value (.path .document before)) after) := by
  intro before after s flat split
  have leaves : ∃ step ∈ before, step ≠ Step.downward :=
    ⟨_,List.mem_cons_of_mem _ List.mem_cons_self,nofun⟩
  have bare : ∀ step ∈ before ++ after, step.Compiled ⟨Java.language,[]⟩ Value.Literal := by
    intro step member p inside
    simp only [before,after,List.cons_append,List.nil_append,List.mem_cons,List.not_mem_nil,or_false] at member
    rcases member with rfl | rfl | rfl
    all_goals cases inside
  have compiled : (Expr.path .document (before ++ after)).Compiled ⟨Java.language,[]⟩ Value.Literal :=
    compiled_path (List.cons_ne_nil _ _) (fun p member => nomatch member) bare
  obtain ⟨law,reading⟩ := split_path_law s
  obtain ⟨one,two⟩ := reading Java.language List.mem_cons_self [] .document before after (List.cons_ne_nil _ _)
    (List.cons_ne_nil _ _) compiled (flat.map (⟨·,0⟩)) (split.map (⟨·,0⟩)) rfl rfl
  exact ⟨leaves,law .document before after Context.document fun _ => leaves,one,two⟩

end TreeAudit.Query
