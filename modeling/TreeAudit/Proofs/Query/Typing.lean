import Mathlib.Data.List.Forall2
import TreeAudit.Languages
import TreeAudit.Proofs.Query.Outcome
import TreeAudit.Query.Expr

-- Types of arguments and results. A converted argument is of the type of its parameter, and the
-- functions of all languages and of the built-in ones keep to their result types.
namespace TreeAudit.Query

def ItemType.Fits (ty : ItemType) (i : Item) : Prop :=
  match ty with
  | .string => ∃ s, i = .text s
  | .number => ∃ x, i = .number x
  | .boolean => ∃ b, i = .truth b
  | .node => i.isNode = true
  | .any => True

def SequenceType.Holds (ty : SequenceType) (value : Value) : Prop :=
  (ty.many = false → value.length = 1) ∧ ∀ i ∈ value, ty.item.Fits i

-- Types of single nodes or of single items of any kind would let the absent value through.
def SequenceType.settled (ty : SequenceType) : Bool :=
  ty.many || ty.item = .string || ty.item = .number || ty.item = .boolean

def ItemType.isAtomic (ty : ItemType) : Bool := ty = .string || ty = .number || ty = .boolean

def EvaluationProblem.isForeign : EvaluationProblem → Bool
  | .foreignNode _ => true
  | _ => false

-- Failures of evaluation other than that of a node from elsewhere are accepted.
def Tolerant (allowed : Failure → Prop) : Prop :=
  ∀ p : EvaluationProblem, p.isForeign = false → allowed (.evaluation p)

def QueryFunction.Answers (f : QueryFunction) (allowed : Failure → Prop) : Prop :=
  ∀ site values, List.Forall₂ SequenceType.Holds f.parameters values →
    Ends f.result.Holds allowed (f.call site values)

variable {allowed : Failure → Prop} {ty : SequenceType} {t : Tree} {name : String} {value : Value}

theorem condition_ends (tolerant : Tolerant allowed) (value : Value) :
    Ends (fun _ => True) allowed value.condition := by
  unfold Value.condition
  split
  · trivial
  · trivial
  · trivial
  · exact tolerant _ rfl

theorem convertItem_ends (tolerant : Tolerant allowed) (ty : ItemType) (index : Nat) (i : Item) :
    Ends ty.Fits allowed (ty.convert t name index i) := by
  cases ty with
  | string => exact ⟨_,rfl⟩
  | number => exact ⟨_,rfl⟩
  | boolean => exact (condition_ends tolerant [i]).bind fun b _ => ⟨b,rfl⟩
  | node =>
    simp only [ItemType.convert]
    split
    · assumption
    · exact tolerant _ rfl
  | any => trivial

theorem absent_holds (settled : ty.settled = true) (single : ty.many = false) :
    ty.Holds ty.item.absent := by
  obtain ⟨item,many⟩ := ty
  cases single
  cases item with
  | string => exact ⟨fun _ => rfl,List.forall_mem_singleton.mpr ⟨_,rfl⟩⟩
  | number => exact ⟨fun _ => rfl,List.forall_mem_singleton.mpr ⟨_,rfl⟩⟩
  | boolean => exact ⟨fun _ => rfl,List.forall_mem_singleton.mpr ⟨_,rfl⟩⟩
  | node => cases settled
  | any => cases settled

theorem mapM_length {g : Item → Except Failure Item} (items results : List Item)
    (done : items.mapM g = .ok results) : results.length = items.length := by
  induction items generalizing results with
  | nil => cases done; rfl
  | cons i items ih =>
    obtain ⟨a,rest,_,later,rfl⟩ := mapM_cons_ok done
    exact congrArg (· + 1) (ih rest later)

theorem convert_ends (tolerant : Tolerant allowed) (settled : ty.settled = true) (index : Nat)
    (value : Value) : Ends ty.Holds allowed (ty.convert t name index value) := by
  unfold SequenceType.convert
  split
  · exact tolerant _ rfl
  · rename_i few
    split
    · rename_i missing
      have single : ty.many = false := by
        simp only [Bool.and_eq_true,Bool.not_eq_true'] at missing
        exact missing.2
      exact absent_holds settled single
    · rename_i present
      have fits := Ends.mapM (g := ty.item.convert t name index) value
        fun i _ => convertItem_ends tolerant ty.item index i
      cases done : value.mapM (ty.item.convert t name index) with
      | error f => exact fits.failure done
      | ok results =>
        refine ⟨fun single => ?_,fits.value done⟩
        rw [mapM_length value results done]
        simp only [single,Bool.not_false,Bool.true_and,Bool.and_true,decide_eq_true_eq,
          List.isEmpty_iff] at few present
        have nonempty := List.length_pos_iff.mpr present
        omega

theorem holds_text (s : String) : (SequenceType.one .string).Holds (Value.text s) :=
  ⟨fun _ => rfl,List.forall_mem_singleton.mpr ⟨s,rfl⟩⟩

theorem holds_number (x : Float) : (SequenceType.one .number).Holds (Value.number x) :=
  ⟨fun _ => rfl,List.forall_mem_singleton.mpr ⟨x,rfl⟩⟩

theorem holds_truth (b : Bool) : (SequenceType.one .boolean).Holds (Value.truth b) :=
  ⟨fun _ => rfl,List.forall_mem_singleton.mpr ⟨b,rfl⟩⟩

theorem focusNode_ends (tolerant : Tolerant allowed) (site : CallSite) :
    Ends (fun _ => True) allowed site.focusNode := by
  unfold CallSite.focusNode
  split
  · trivial
  · exact tolerant _ rfl

-- Only `metric` can fail for a reason that lies in the query.
theorem coreFunctions_answer (tolerant : Tolerant allowed) (read : PatternReader) :
    ∀ f ∈ coreFunctions read, (f.name = "metric" → ∀ key, allowed (.badArgument (.unknownMetric key))) →
      f.Answers allowed := by
  have condition : ∀ value : Value, ∀ g : Bool → Bool,
      Ends (SequenceType.one .boolean).Holds allowed (do pure (Value.truth (g (← value.condition)))) :=
    fun value g => (condition_ends tolerant value).bind fun b _ => holds_truth (g b)
  simp only [coreFunctions,List.forall_mem_cons,List.not_mem_nil,false_implies,implies_true,and_true]
  refine ⟨?_,?_,?_,?_,?_,?_,?_,?_,?_,?_,?_,?_,?_,?_,?_,?_,?_,?_,?_,?_⟩
  all_goals intro known site values typed
  · exact holds_truth _
  · exact holds_truth _
  · exact condition _ _
  · exact condition _ id
  · exact holds_number _
  · exact holds_number _
  · exact holds_number _
  · exact holds_truth _
  · exact holds_truth _
  · exact holds_text _
  · cases typed with
    | cons first rest => exact first
  · exact holds_number _
  · exact holds_truth _
  · exact holds_truth _
  · exact holds_truth _
  · exact holds_text _
  · exact holds_text _
  · change Ends _ _ (matchesPattern _ _ _)
    unfold matchesPattern
    split
    · exact holds_truth _
    · exact tolerant _ rfl
  · exact (focusNode_ends tolerant site).bind fun id _ => holds_text _
  · change Ends _ _ (metricValue _ _)
    unfold metricValue
    split
    · exact known rfl _
    · exact (focusNode_ends tolerant site).bind fun id _ => holds_number _

theorem java_answers (tolerant : Tolerant allowed) :
    ∀ f ∈ Java.language.functions, f.Answers allowed := by
  refine List.forall_mem_cons.mpr ⟨?_,List.forall_mem_singleton.mpr ?_⟩
  all_goals intro site values typed
  · exact (focusNode_ends tolerant site).bind fun id _ => holds_truth _
  · refine (focusNode_ends tolerant site).bind fun id _ => ⟨?_,?_⟩
    · intro single
      cases single
    intro i member
    obtain ⟨s,_,rfl⟩ := List.mem_map.mp member
    exact ⟨s,rfl⟩

theorem python_answers (tolerant : Tolerant allowed) :
    ∀ f ∈ Python.language.functions, f.Answers allowed := by
  refine List.forall_mem_singleton.mpr ?_
  intro site values typed
  exact (focusNode_ends tolerant site).bind fun id _ => holds_truth _

theorem function_mem {l : Language} {f : QueryFunction} (found : l.function? name = some f) :
    f ∈ l.functions ∨ f ∈ coreFunctions l.patterns := by
  unfold Language.function? at found
  dsimp only at found
  split at found
  · split at found
    · exact .inr (List.mem_of_find?_eq_some found)
    · split at found
      · exact .inl (List.mem_of_find?_eq_some found)
      · cases found
  · rcases Option.or_eq_some_iff.mp found with own | ⟨_,core⟩
    · exact .inl (List.mem_of_find?_eq_some own)
    · exact .inr (List.mem_of_find?_eq_some core)

-- The built-in languages as far as their functions matter, however patterns are read: settled
-- parameters, atomic results, and answers as declared.
theorem builtIn_answers (tolerant : Tolerant allowed) {l : Language} {f : QueryFunction}
    (builtIn : l ∈ Registry.builtIn.languages) (read : PatternReader)
    (found : (l.reading read).function? name = some f)
    (metric : f.name = "metric" → ∀ key, allowed (.badArgument (.unknownMetric key))) :
    f.Answers allowed := by
  rcases function_mem found with own | core
  · rcases List.mem_cons.mp builtIn with rfl | last
    · exact java_answers tolerant f own
    · cases List.mem_singleton.mp last
      exact python_answers tolerant f own
  · exact coreFunctions_answer tolerant _ f core metric

theorem builtIn_types {l : Language} {f : QueryFunction} (builtIn : l ∈ Registry.builtIn.languages)
    (read : PatternReader) (found : (l.reading read).function? name = some f) :
    f.parameters.all SequenceType.settled = true ∧ f.result.item.isAtomic = true := by
  have core : ∀ f ∈ coreFunctions read,
      f.parameters.all SequenceType.settled = true ∧ f.result.item.isAtomic = true :=
    of_decide_eq_true rfl
  have own : ∀ l ∈ Registry.builtIn.languages, ∀ f ∈ l.functions,
      f.parameters.all SequenceType.settled = true ∧ f.result.item.isAtomic = true := by decide
  rcases function_mem found with known | known
  · exact own l builtIn f known
  · exact core f known

-- The functions of a built-in language and of all languages have distinct names, none with a colon, and
-- none that stands for an axis or for the test of all nodes.
theorem builtIn_names {l : Language} (builtIn : l ∈ Registry.builtIn.languages) :
    ((l.functions ++ coreFunctions l.patterns).map QueryFunction.name).Nodup ∧
      ∀ f ∈ l.functions ++ coreFunctions l.patterns,
      Language.splitName f.name.toList = none ∧ Axis.ofName? f.name = none ∧ f.name ≠ "node" := by
  revert l
  decide

theorem find_named {fs : List QueryFunction} {f : QueryFunction} (distinct : (fs.map QueryFunction.name).Nodup)
    (member : f ∈ fs) : fs.find? (·.name = f.name) = some f := by
  induction fs with
  | nil => cases member
  | cons g fs ih =>
    rw [List.map_cons,List.nodup_cons] at distinct
    rcases List.mem_cons.mp member with rfl | later
    · exact List.find?_cons_of_pos (decide_eq_true rfl)
    · have other : g.name ≠ f.name := by
        intro same
        exact distinct.1 (same ▸ List.mem_map.mpr ⟨f,later,rfl⟩)
      rw [List.find?_cons_of_neg (by simpa using other)]
      exact ih distinct.2 later

-- A function can be called by its own name, whatever name it was found by.
theorem function_named {l : Language} {f : QueryFunction} {name : String}
    (builtIn : l ∈ Registry.builtIn.languages) (found : l.function? name = some f) :
    l.function? f.name = some f ∧ Axis.ofName? f.name = none ∧ f.name ≠ "node" := by
  obtain ⟨distinct,plain⟩ := builtIn_names builtIn
  have member : f ∈ l.functions ++ coreFunctions l.patterns := List.mem_append.mpr (function_mem found)
  obtain ⟨colonless,apart⟩ := plain f member
  refine ⟨?_,apart⟩
  rw [Language.function?]
  simp only [colonless]
  rw [← List.find?_append]
  exact find_named distinct member

end TreeAudit.Query
