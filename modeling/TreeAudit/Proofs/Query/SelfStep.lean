import TreeAudit.Proofs.Query.DoubleSlash

-- A self step in front of a path. From an item it changes nothing: a node leads to itself, and what no
-- step can start from fails as it would without it. The document is no item; it stays only behind a bare
-- `descendant-or-self` step, and a self step leads nowhere from it.
namespace TreeAudit.Query

def Step.itself : Step := .mk .self .any []

section Evaluation
variable {s : Setting} {p : Place} {step : Step} {steps : List Step} {c : Context} {id : Nat} {i : Item}
  {f : Failure}

theorem itself_eval (s : Setting) (p : Place) : Step.itself.eval s [p] =
    (fun o => placesAfter false (Value.ofNodes (s.passing .self .any o))) <$> s.standing p := by
  rw [Step.itself,bare_step (show Axis.self ≠ .attributes by decide)]
  cases stands : s.standing p with
  | error f =>
    rw [List.mapM_cons,stands]
    rfl
  | ok o =>
    rw [List.mapM_cons,stands]
    change Except.ok (placesAfter false (Value.ofNodes ([o].flatMap (s.passing .self .any)))) = _
    rw [List.flatMap_singleton]
    rfl

theorem placesAfter_none : placesAfter false [] = [] := by
  rw [placesAfter,Value.arrange_nil]
  rfl

theorem itself_document (s : Setting) : Step.itself.eval s [.document] = .ok [] := by
  rw [itself_eval]
  exact congrArg Except.ok placesAfter_none

theorem itself_node (inside : id < s.tree.size) :
    Step.itself.eval s [.item (.node id)] = .ok [.item (.node id)] := by
  rw [itself_eval,Setting.standing_node,if_pos inside]
  change Except.ok (placesAfter false (Value.ofNodes [id])) = _
  rw [placesAfter,Value.arrange_ofNodes,documentOrder_of_ascending (List.pairwise_singleton _ id)]
  rfl

-- Where no step can start, every step fails in the same way.
theorem step_refused (refused : s.standing p = .error f) : step.eval s [p] = .error f := by
  obtain ⟨axis,test,predicates⟩ := step
  have none : s.candidates axis test p = .error f := by
    match p with
    | .document => cases refused
    | .item (.atom a) =>
      cases refused
      rfl
    | .item (.node id) =>
      rw [Setting.standing_node] at refused
      split at refused
      · cases refused
      · rename_i outside
        cases refused
        rw [Setting.candidates,Setting.node,if_neg outside]
        rfl
  rw [Step.eval,List.mapM_cons,none]
  rfl

theorem itself_then (some : steps ≠ []) (i : Item) :
    evalSteps s (Step.itself :: steps) [.item i] = evalSteps s steps [.item i] := by
  obtain ⟨step,rest,rfl⟩ := List.exists_cons_of_ne_nil some
  rw [evalSteps,evalSteps]
  cases stands : s.standing (.item i) with
  | error f =>
    rw [step_refused stands,step_refused stands]
    rfl
  | ok o =>
    cases i with
    | atom a => cases stands
    | node id =>
      have inside : id < s.tree.size := by
        rw [Setting.standing_node] at stands
        split at stands
        · assumption
        · cases stands
      rw [itself_node inside]
      rfl

theorem evalSteps_nowhere (s : Setting) (steps : List Step) : evalSteps s steps [] = .ok [] := by
  induction steps with
  | nil => rfl
  | cons step steps ih =>
    obtain ⟨axis,test,predicates⟩ := step
    have gone : (Step.mk axis test predicates).keepsDocument [] = false := Bool.and_false _
    have none : (Step.mk axis test predicates).eval s [] = .ok [] := by
      rw [Step.eval,gone]
      exact congrArg Except.ok placesAfter_none
    rw [evalSteps,none]
    exact ih

theorem path_eval {origin : Origin} {places : List Place} (start : origin.places s c = .ok places)
    (steps : List Step) : (Expr.path origin steps).eval s c =
      (evalSteps s steps places >>= fun reached => pure (reached.filterMap Place.item?)) := by
  rw [Expr.eval,start]
  rfl

theorem focus_path (s : Setting) (steps : List Step) (c : Context) : (Expr.path .focus steps).eval s c =
    (evalSteps s steps [c.focus] >>= fun reached => pure (reached.filterMap Place.item?)) :=
  path_eval (by rw [Origin.places]) steps

theorem itself_from_document (s : Setting) (steps : List Step) (above : c.focus = .document) :
    (Expr.path .focus (Step.itself :: steps)).eval s c = .ok [] := by
  rw [focus_path,above,evalSteps,itself_document]
  change (evalSteps s steps [] >>= _) = _
  rw [evalSteps_nowhere]
  rfl

-- A path of one bare step from the document, by the nodes that it passes in their order.
theorem document_step {axis : Axis} {test : NodeTest} {origin : Origin} {ids : List Nat}
    (walks : axis ≠ .attributes) (leaves : (Step.mk axis test []).keepsDocument [.document] = false)
    (start : origin.places s c = .ok [.document]) (passed : s.passing axis test none = ids)
    (ascending : ids.Pairwise (· < ·)) :
    (Expr.path origin [.mk axis test []]).eval s c = .ok (Value.ofNodes ids) := by
  have stepped : (Step.mk axis test []).eval s [.document] = .ok ((Value.ofNodes ids).map Place.item) := by
    rw [bare_step walks,leaves]
    change Except.ok (placesAfter false (Value.ofNodes ([none].flatMap (s.passing axis test)))) = _
    rw [List.flatMap_singleton,passed,placesAfter,Value.arrange_ofNodes,
      documentOrder_of_ascending ascending]
    rfl
  rw [path_eval start,evalSteps,stepped]
  exact congrArg Except.ok (items_of_places _)

end Evaluation

section Reading
variable {v : Vocabulary} {n : Nat} {dot sign : Token} {ts rest : List Token} {steps : List Step}

-- A dot with a slash behind it is read as a self step.
theorem read_itself (isDot : dot.symbol = .dot) (isSign : sign.symbol = .slash ∨ sign.symbol = .doubleSlash)
    (read : readSteps v (n + 2) (sign :: ts) = .ok (steps,rest)) :
    readPath v (n + 3) (dot :: sign :: ts) = .ok (.path .focus (Step.itself :: steps),rest) := by
  have ahead : second (dot :: sign :: ts) = sign.symbol := rfl
  have continues : continuesPath sign.symbol = true := by
    rcases isSign with slash | slash <;> rw [slash] <;> rfl
  have bare : sign.symbol ≠ .leftBracket := by
    rcases isSign with slash | slash <;> rw [slash] <;> decide
  have stepped : readStep v (n + 2) (dot :: sign :: ts) = .ok (Step.itself,sign :: ts) := by
    rw [readStep,readAxisTest,front,isDot]
    change (readPredicates v (n + 1) (sign :: ts) >>= _) = _
    rw [readPredicates,front,if_neg bare]
    rfl
  have primary : startsPrimary (dot :: sign :: ts) = false := by rw [startsPrimary,front,isDot]
  have starts : startsStep (dot :: sign :: ts) = true := by rw [startsStep,front,isDot]
  rw [readPath,primary,starts,ahead,continues,stepped]
  rw [front,isDot,if_neg (by decide),if_neg (by decide),if_neg (by decide),if_pos rfl,if_neg (by decide)]
  change (readSteps v (n + 2) (sign :: ts) >>= _) = _
  rw [read]
  rfl

-- The steps of a path that starts from the focus are those that a slash is followed by.
theorem relative_read (isSlash : sign.symbol = .slash) (plain : startsPrimary ts = false)
    (read : readPath v (n + 1) ts = .ok (.path .focus steps,rest)) :
    steps ≠ [] ∧ (∃ m, n = m + 1) ∧ readSteps v (n + 1) (sign :: ts) = .ok (steps,rest) := by
  have more : ts ≠ [] := by
    rintro rfl
    cases read
  rw [readPath,plain] at read
  split at read
  · split at read
    · obtain ⟨_,_,behind⟩ := bind_ok read
      obtain ⟨_,_,last⟩ := bind_ok behind
      cases last
    · cases read
  split at read
  · split at read
    · obtain ⟨_,_,behind⟩ := bind_ok read
      obtain ⟨_,_,last⟩ := bind_ok behind
      cases last
    · cases read
  rw [if_neg Bool.false_ne_true] at read
  split at read
  · split at read
    · cases read
    · obtain ⟨one,first,behind⟩ := bind_ok read
      obtain ⟨two,later,last⟩ := bind_ok behind
      cases last
      exact ⟨List.cons_ne_nil _ _,readStep_deep first,readSteps_slash isSlash more first later⟩
  · cases read

theorem absolute_read (isDouble : sign.symbol = .doubleSlash)
    (read : readPath v (n + 1) (sign :: ts) = .ok (.path .document steps,rest)) :
    (∃ m, n = m + 1) ∧ readSteps v (n + 1) (sign :: ts) = .ok (steps,rest) := by
  rw [readPath,front,isDouble,if_neg (by decide),if_pos rfl] at read
  rw [readSteps,front,isDouble,if_neg (by decide),if_pos rfl]
  split at read
  · rename_i starts
    obtain ⟨one,first,behind⟩ := bind_ok read
    obtain ⟨two,later,last⟩ := bind_ok behind
    cases last
    refine ⟨readStep_deep first,?_⟩
    rw [if_pos starts,first]
    change (readSteps v n one.2 >>= _) = _
    rw [later]
    rfl
  · cases read

end Reading

-- `./P` for every path `P` of one or more steps. It is read as the steps of `P` behind a self step. Where
-- the focus is an item it has the value or the failure of `P`; from the document it selects nothing, and
-- so does `.//X`. A dot alone is no step: on a node of the tree `./.` is that node.
theorem selfStep_law (s : Setting) :
    (∀ steps c i, steps ≠ [] → c.focus = .item i →
      (Expr.path .focus (Step.itself :: steps)).eval s c = (Expr.path .focus steps).eval s c) ∧
    (∀ c id, c.focus = .item (.node id) → id < s.tree.size →
      (Expr.path .focus [Step.itself,Step.itself]).eval s c = Expr.focus.eval s c) ∧
    (∀ steps c, c.focus = .document → (Expr.path .focus (Step.itself :: steps)).eval s c = .ok []) ∧
    ∀ (v : Vocabulary) (n : Nat) (dot sign : Token) (ts rest : List Token) (steps : List Step),
      dot.symbol = .dot →
        (sign.symbol = .slash → startsPrimary ts = false →
          readPath v (n + 1) ts = .ok (.path .focus steps,rest) → steps ≠ [] ∧
            readPath v (n + 2) (dot :: sign :: ts) = .ok (.path .focus (Step.itself :: steps),rest)) ∧
        (sign.symbol = .doubleSlash → readPath v (n + 1) (sign :: ts) = .ok (.path .document steps,rest) →
          readPath v (n + 2) (dot :: sign :: ts) = .ok (.path .focus (Step.itself :: steps),rest)) := by
  refine ⟨?_,?_,fun steps c above => itself_from_document s steps above,?_⟩
  · intro steps c i some focus
    rw [focus_path,focus_path,focus,itself_then some]
  · intro c id focus inside
    rw [focus_path,focus,itself_then (List.cons_ne_nil _ _),evalSteps,itself_node inside,Expr.eval,focus]
    rfl
  · intro v n dot sign ts rest steps isDot
    constructor
    · intro isSlash plain read
      obtain ⟨some,⟨n,rfl⟩,later⟩ := relative_read isSlash plain read
      exact ⟨some,read_itself isDot (.inl isSlash) later⟩
    · intro isDouble read
      obtain ⟨⟨n,rfl⟩,later⟩ := absolute_read isDouble read
      exact read_itself isDot (.inr isDouble) later

theorem selfStep_law_sample :
    let behind : List Token := [⟨.name "Block",2⟩,⟨.finish,7⟩]
    let steps : List Step := [.mk .child (.name "Block") []]
    readPath ⟨Java.language,[]⟩ 4 behind = .ok (.path .focus steps,[⟨.finish,7⟩]) ∧
      readPath ⟨Java.language,[]⟩ 5 (⟨.dot,0⟩ :: ⟨.slash,1⟩ :: behind) =
        .ok (.path .focus (Step.itself :: steps),[⟨.finish,7⟩]) ∧
      (Expr.path .focus (Step.itself :: steps)).eval ⟨sample,Java.language⟩ ⟨.item (.node 1),1,2⟩ =
        (Expr.path .focus steps).eval ⟨sample,Java.language⟩ ⟨.item (.node 1),1,2⟩ ∧
      (Expr.path .focus (Step.itself :: steps)).eval ⟨sample,Java.language⟩ Context.document = .ok [] := by
  intro behind steps
  have read : readPath ⟨Java.language,[]⟩ 4 behind = .ok (.path .focus steps,[⟨.finish,7⟩]) := rfl
  obtain ⟨items,_,document,reading⟩ := selfStep_law ⟨sample,Java.language⟩
  obtain ⟨some,dotted⟩ := (reading ⟨Java.language,[]⟩ 3 ⟨.dot,0⟩ ⟨.slash,1⟩ behind [⟨.finish,7⟩] steps rfl).1
    rfl rfl read
  exact ⟨read,dotted,items steps _ _ some rfl,document steps _ rfl⟩

-- From the document a path that starts with a self step selects nothing where the path without it selects
-- the root or the methods; and on a single value `./.` fails where `.` does not.
theorem selfStep_not_neutral :
    let s : Setting := ⟨sample,Java.language⟩
    let methods := descendantSteps (.mk .child (.name "MethodDeclaration") [])
    (Expr.path .focus [.mk .child .any []]).eval s Context.document = .ok (Value.ofNodes [Tree.root]) ∧
    (Expr.path .focus [Step.itself,.mk .child .any []]).eval s Context.document = .ok [] ∧
    (Expr.path .document methods).eval s Context.document = .ok (Value.ofNodes [1,3]) ∧
    (Expr.path .focus (Step.itself :: methods)).eval s Context.document = .ok [] ∧
    Expr.focus.eval s ⟨.item (.atom (.text "a")),1,1⟩ = .ok [.atom (.text "a")] ∧
    (Expr.path .focus [Step.itself,Step.itself]).eval s ⟨.item (.atom (.text "a")),1,1⟩ =
      .error (.evaluation .stepFromValue) := by
  intro s methods
  have above : Context.document.focus = .document := rfl
  refine ⟨?_,itself_from_document s _ above,?_,itself_from_document s _ above,rfl,rfl⟩
  · exact document_step (by decide) rfl rfl rfl (by decide)
  · exact document_step (by decide) rfl rfl (by decide +kernel) (by decide)

end TreeAudit.Query
