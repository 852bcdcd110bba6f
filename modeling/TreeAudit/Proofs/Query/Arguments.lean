import TreeAudit.Proofs.Query.Selection

-- Arguments of calls. What a function is handed by a compiled query is of the types that it declares, one
-- value for each parameter; so it never reads an argument that is missing or of another kind, and it
-- answers with a value of the type that it declares. Converting what has been converted changes nothing.
namespace TreeAudit
open Query

namespace Query

-- Stops where an argument is missing, or no text where a text is asked for.
def ArgumentReader.strict (failure : Failure) : ArgumentReader where
  text args i :=
    match args[i]? with
    | some [.text s] => .ok s
    | _ => .error failure
  value args i :=
    match args[i]? with
    | some value => .ok value
    | none => .error failure

-- The functions of the built-in languages and of all languages, with their arguments read in one way.
def callable (read : PatternReader) (r : ArgumentReader) : List QueryFunction :=
  Java.annotationTest r :: Java.modifierList :: Python.decoratorTest r :: coreFunctions read r

-- Two functions that give the same answers, with the memo and without, to arguments of the types that the first
-- declares.
def QueryFunction.Agrees (f g : QueryFunction) : Prop :=
  g.name = f.name ∧ ∀ site values, List.Forall₂ SequenceType.Holds f.parameters values →
    g.call site values = f.call site values ∧ g.recalled site values = f.recalled site values

variable {f g : QueryFunction} {ty : SequenceType} {t : Tree} {value converted : Value} {values : List Value}
  {l : Language} {name : String} {args : List Expr} {s : Setting} {c : Context} {site : CallSite}

theorem QueryFunction.Agrees.refl (f : QueryFunction) : f.Agrees f := ⟨rfl,fun _ _ _ => ⟨rfl,rfl⟩⟩

theorem holds_string (holds : (SequenceType.one .string).Holds value) : ∃ s, value = Value.text s := by
  obtain ⟨i,rfl⟩ := List.length_eq_one_iff.mp (holds.1 rfl)
  obtain ⟨s,rfl⟩ := List.forall_mem_singleton.mp holds.2
  exact ⟨s,rfl⟩

theorem agrees_value (named : g.name = f.name) (one : f.parameters = [ty])
    (same : ∀ site value, g.call site [value] = f.call site [value] ∧ g.recalled site [value] = f.recalled site [value]) :
    f.Agrees g := by
  refine ⟨named,fun site values typed => ?_⟩
  rw [one] at typed
  obtain ⟨value,_,_,none,rfl⟩ := List.forall₂_cons_left_iff.mp typed
  cases none
  exact same site value

theorem agrees_text (named : g.name = f.name) (one : f.parameters = [.one .string])
    (same : ∀ site s, g.call site [Value.text s] = f.call site [Value.text s] ∧
      g.recalled site [Value.text s] = f.recalled site [Value.text s]) : f.Agrees g := by
  refine ⟨named,fun site values typed => ?_⟩
  rw [one] at typed
  obtain ⟨value,_,holds,none,rfl⟩ := List.forall₂_cons_left_iff.mp typed
  cases none
  obtain ⟨s,rfl⟩ := holds_string holds
  exact same site s

theorem agrees_texts (named : g.name = f.name) (two : f.parameters = [.one .string,.one .string])
    (same : ∀ site s r, g.call site [Value.text s,Value.text r] = f.call site [Value.text s,Value.text r] ∧
      g.recalled site [Value.text s,Value.text r] = f.recalled site [Value.text s,Value.text r]) : f.Agrees g := by
  refine ⟨named,fun site values typed => ?_⟩
  rw [two] at typed
  obtain ⟨_,_,first,more,rfl⟩ := List.forall₂_cons_left_iff.mp typed
  obtain ⟨_,_,second,none,rfl⟩ := List.forall₂_cons_left_iff.mp more
  cases none
  obtain ⟨s,rfl⟩ := holds_string first
  obtain ⟨r,rfl⟩ := holds_string second
  exact same site s r

-- No function reads an argument that it does not declare, or a text where it declares none.
theorem callable_strict (read : PatternReader) (failure : Failure) :
    List.Forall₂ QueryFunction.Agrees (callable read .lenient) (callable read (.strict failure)) := by
  simp only [callable,coreFunctions,List.forall₂_cons,List.forall₂_nil_left_iff,and_true]
  refine ⟨?_,?_,?_,?_,?_,?_,?_,?_,?_,?_,?_,?_,?_,?_,?_,?_,?_,?_,?_,?_,?_,?_,?_⟩
  · exact agrees_text rfl rfl fun _ _ => ⟨rfl,rfl⟩
  · exact .refl _
  · exact agrees_text rfl rfl fun _ _ => ⟨rfl,rfl⟩
  · exact .refl _
  · exact .refl _
  · exact agrees_value rfl rfl fun _ _ => ⟨rfl,rfl⟩
  · exact agrees_value rfl rfl fun _ _ => ⟨rfl,rfl⟩
  · exact .refl _
  · exact .refl _
  · exact agrees_value rfl rfl fun _ _ => ⟨rfl,rfl⟩
  · exact agrees_value rfl rfl fun _ _ => ⟨rfl,rfl⟩
  · exact agrees_value rfl rfl fun _ _ => ⟨rfl,rfl⟩
  · exact agrees_text rfl rfl fun _ _ => ⟨rfl,rfl⟩
  · exact agrees_value rfl rfl fun _ _ => ⟨rfl,rfl⟩
  · exact agrees_text rfl rfl fun _ _ => ⟨rfl,rfl⟩
  · exact agrees_texts rfl rfl fun _ _ _ => ⟨rfl,rfl⟩
  · exact agrees_texts rfl rfl fun _ _ _ => ⟨rfl,rfl⟩
  · exact agrees_texts rfl rfl fun _ _ _ => ⟨rfl,rfl⟩
  · exact agrees_text rfl rfl fun _ _ => ⟨rfl,rfl⟩
  · exact agrees_text rfl rfl fun _ _ => ⟨rfl,rfl⟩
  · exact agrees_texts rfl rfl fun _ _ _ => ⟨rfl,rfl⟩
  · exact .refl _
  · exact agrees_text rfl rfl fun _ _ => ⟨rfl,rfl⟩

theorem callable_mem (builtIn : l ∈ Registry.builtIn.languages) (read : PatternReader)
    (found : (l.reading read).function? name = some f) : f ∈ callable read .lenient := by
  rcases function_mem found with own | core
  · have ours : f ∈ [Java.annotationTest,Java.modifierList,Python.decoratorTest] := by
      rcases List.mem_pair.mp builtIn with rfl | rfl
      · exact List.mem_append_left [Python.decoratorTest] own
      · exact List.mem_append_right [Java.annotationTest,Java.modifierList] own
    exact List.mem_append_left (coreFunctions read) ours
  · exact List.mem_append_right [Java.annotationTest,Java.modifierList,Python.decoratorTest] core

theorem strictly_read (read : PatternReader) (member : f ∈ callable read .lenient) (failure : Failure) :
    ∃ k : Nat, (callable read .lenient)[k]? = some f ∧
      ∃ g, (callable read (.strict failure))[k]? = some g ∧ f.Agrees g := by
  obtain ⟨k,inside,rfl⟩ := List.mem_iff_getElem.mp member
  have agree := callable_strict read failure
  have known : k < (callable read (.strict failure)).length := agree.length_eq ▸ inside
  exact ⟨k,List.getElem?_eq_getElem inside,_,List.getElem?_eq_getElem known,agree.get inside known⟩

theorem convertItem_again {i j : Item} {name other : String} {index place : Nat} {t u : Tree} {ty : ItemType}
    (done : ty.convert t name index i = .ok j) : ty.convert u other place j = .ok j := by
  cases ty with
  | string | number =>
    cases done
    rfl
  | boolean =>
    obtain ⟨b,_,told⟩ := bind_ok done
    cases told
    rfl
  | node =>
    simp only [ItemType.convert] at done
    split at done
    · rename_i isNode
      cases done
      exact if_pos isNode
    · cases done
  | any => rfl

theorem convertItems_again {name other : String} {index place : Nat} {t u : Tree} {ty : ItemType}
    (done : value.mapM (ty.convert t name index) = .ok converted) :
    converted.mapM (ty.convert u other place) = .ok converted := by
  induction value generalizing converted with
  | nil =>
    cases done
    rfl
  | cons i value ih =>
    obtain ⟨j,rest,first,later,rfl⟩ := mapM_cons_ok done
    rw [List.mapM_cons,convertItem_again first,ih later]
    rfl

theorem absent_again {name : String} {index : Nat} {t : Tree} (single : ty.many = false) :
    ty.convert t name index ty.item.absent = .ok ty.item.absent := by
  obtain ⟨item,many⟩ := ty
  cases single
  cases item <;> rfl

-- What stands for an absent value is left as it is, and so is, item by item, all that was converted.
theorem convert_again {name other : String} {index place : Nat} {t u : Tree}
    (done : ty.convert t name index value = .ok converted) :
    ty.convert u other place converted = .ok converted := by
  unfold SequenceType.convert at done
  split at done
  · cases done
  · rename_i few
    split at done
    · rename_i missing
      cases done
      rw [Bool.and_eq_true,Bool.not_eq_true'] at missing
      exact absent_again missing.2
    · rename_i present
      have counted := mapM_length value converted done
      have empty : converted.isEmpty = value.isEmpty := by
        rw [Bool.eq_iff_iff,List.isEmpty_iff_length_eq_zero,List.isEmpty_iff_length_eq_zero,counted]
      rw [SequenceType.convert,counted,if_neg few,empty,if_neg present]
      exact convertItems_again done

-- How a call of a function comes to be answered: where it stands, and with what arguments.
def Setting.Hands (s : Setting) (c : Context) (f : QueryFunction) (args : List Expr) (site : CallSite)
    (values : List Value) : Prop :=
  s.callSite f c = .ok site ∧ evalArgs s f.name 0 f.parameters args c = .ok values

theorem Setting.Hands.eval (hands : s.Hands c f args site values) :
    (Expr.call f args).eval s c = f.call site values := by
  rw [Expr.eval,hands.1]
  change (evalArgs s f.name 0 f.parameters args c >>= _) = _
  rw [hands.2]
  rfl

theorem hands_of_eval (answered : (Expr.call f args).eval s c = .ok value) :
    ∃ site values, s.Hands c f args site values ∧ f.call site values = .ok value := by
  rw [Expr.eval] at answered
  obtain ⟨site,place,behind⟩ := bind_ok answered
  obtain ⟨values,given,last⟩ := bind_ok behind
  exact ⟨site,values,⟨place,given⟩,last⟩

theorem Setting.Hands.typed (hands : s.Hands c f args site values) (counted : f.parameters.length = args.length)
    (settled : f.parameters.all SequenceType.settled = true) :
    List.Forall₂ SequenceType.Holds f.parameters values := by
  have any : Tolerant fun _ => True := fun _ _ => trivial
  have each : ∀ a ∈ args, Ends (fun _ => True) (fun _ => True) (a.eval s c) := by
    intro a _
    cases a.eval s c <;> trivial
  exact (evalArgs_ends any f.name 0 counted settled each).value hands.2

end Query

open Query

-- Every call in a compiled query, over any tree and in any context. Its function is one of those known, is
-- handed one value of the declared type for each parameter, would give the same answer if reading an argument
-- could fail, and answers as it declares.
theorem PathQuery.calls_typed {source : String} {l : Language} {bindings : List (String × Value)} {q : PathQuery}
    (builtIn : l ∈ Registry.builtIn.languages) (read : PatternReader)
    (compiled : PathQuery.compile source (l.reading read) bindings = .ok q) :
    (∀ f args, (Expr.call f args).Within q.expr →
      args.length = f.parameters.length ∧
      (∀ failure, ∃ k : Nat, (callable read .lenient)[k]? = some f ∧
        ∃ g, (callable read (.strict failure))[k]? = some g ∧ f.Agrees g) ∧
      ∀ s c,
        (∀ site values, s.Hands c f args site values →
          List.Forall₂ SequenceType.Holds f.parameters values ∧
            (Expr.call f args).eval s c = f.call site values) ∧
        ∀ value, (Expr.call f args).eval s c = .ok value →
          (∃ site values, s.Hands c f args site values) ∧ f.result.Holds value) ∧
    ∀ (ty : SequenceType) t name index value converted, ty.convert t name index value = .ok converted →
      ∀ u other place, ty.convert u other place converted = .ok converted := by
  refine ⟨fun f args inside => ?_,fun ty t name index value converted done u other place => convert_again done⟩
  have sound : q.expr.Compiled ⟨l.reading read,bindings⟩ fun _ => True :=
    compile_compiled (fun _ _ => trivial) (fun _ _ _ => trivial) compiled
  obtain ⟨name,called⟩ := sound _ inside
  obtain ⟨g,same,found,counted⟩ := call_sound called
  cases same
  have settled := (builtIn_types builtIn read found).1
  have any : Tolerant fun _ => True := fun _ _ => trivial
  have answers := builtIn_answers any builtIn read found fun _ _ => trivial
  refine ⟨counted.symm,strictly_read read (callable_mem builtIn read found),fun s c => ⟨?_,?_⟩⟩
  · intro site values hands
    exact ⟨hands.typed counted settled,hands.eval⟩
  · intro value answered
    obtain ⟨site,values,hands,last⟩ := hands_of_eval answered
    exact ⟨⟨site,values,hands⟩,(answers site values (hands.typed counted settled)).value last⟩

theorem PathQuery.calls_typed_sample :
    let lang := Java.language.reading .standard
    let s : Setting := ⟨sample,lang⟩
    let c : Context := ⟨.item (.node 2),1,1⟩
    ∃ q f args, PathQuery.compile "//Block[contains(.,$part)]" lang [("part",Value.text "\x7d")] = .ok q ∧
      (Expr.call f args).Within q.expr ∧ (Expr.call f args).eval s c = .ok (Value.truth true) ∧
      (∃ site values, s.Hands c f args site values) ∧ f.result.Holds (Value.truth true) := by
  intro lang s c
  have scanned : tokenize "//Block[contains(.,$part)]" = .ok [⟨.doubleSlash,0⟩,⟨.name "Block",2⟩,⟨.leftBracket,7⟩,
    ⟨.name "contains",8⟩,⟨.leftParen,16⟩,⟨.dot,17⟩,⟨.comma,18⟩,⟨.dollar,19⟩,⟨.name "part",20⟩,⟨.rightParen,24⟩,
    ⟨.rightBracket,25⟩,⟨.finish,26⟩] := by decide +kernel
  obtain ⟨f,found,known⟩ : ∃ f, (lang.function? "contains") = some f ∧
      f = .onTexts "contains" fun s t => occursIn t.toList s.toList := ⟨_,rfl,rfl⟩
  let args : List Expr := [.focus,.const (Value.text "\x7d")]
  let e : Expr := .path .document [Step.downward,.mk .child (.name "Block") [.call f args]]
  have compiled : PathQuery.compile "//Block[contains(.,$part)]" lang [("part",Value.text "\x7d")] =
      .ok ⟨"//Block[contains(.,$part)]","java",e⟩ := by
    subst known
    rw [PathQuery.compile,scanned]
    rfl
  have inside : (Expr.call f args).Within e := .single List.mem_cons_self
  have answered : (Expr.call f args).eval s c = .ok (Value.truth true) := by
    subst known
    decide +kernel
  obtain ⟨calls,_⟩ := PathQuery.calls_typed (l := Java.language) List.mem_cons_self .standard compiled
  obtain ⟨_,_,each⟩ := calls f args inside
  obtain ⟨handed,conforms⟩ := (each s c).2 _ answered
  exact ⟨_,f,args,compiled,inside,answered,handed,conforms⟩

end TreeAudit
