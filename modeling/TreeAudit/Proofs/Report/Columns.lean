import TreeAudit.Proofs.Report.Lines
import TreeAudit.Proofs.Text.Unescaping

-- What a line tells of its texts. The column of rules, which blanks fill up, takes in blanks at the end of a rule's
-- id. In colour a line is cut where a colour starts or ends, which no escaped text does, so that it tells each of its
-- texts but for these blanks.
namespace TreeAudit
namespace Text
variable {width i j n : Nat} {s t : String}

def blanks (n : Nat) : String := String.ofList (List.replicate n ' ')

theorem length_blanks (n : Nat) : (blanks n).length = n := by
  rw [blanks,String.length_ofList,List.length_replicate]

theorem append_no_blanks (s : String) : s ++ blanks 0 = s := String.append_empty

theorem blanks_add (i j : Nat) : blanks (i + j) = blanks i ++ blanks j := by
  rw [blanks,blanks,blanks,List.replicate_add,String.ofList_append]

theorem escapeControl_blanks (n : Nat) : escapeControl (blanks n) = blanks n := by
  induction n with
  | zero => rfl
  | succ n ih =>
    rw [Nat.add_comm,blanks_add,escapeControl_append,ih]
    rfl

theorem padRight_eq (width : Nat) (s : String) : padRight width s = s ++ blanks (width - s.length) := rfl

theorem append_blanks_eq (same : s ++ blanks i = t ++ blanks j) (shorter : s.length ≤ t.length) :
    t = s ++ blanks (t.length - s.length) := by
  have lengths := congrArg String.length same
  simp only [String.length_append,length_blanks] at lengths
  have lists : s.toList ++ List.replicate i ' ' = t.toList ++ List.replicate j ' ' := by
    simpa [blanks] using congrArg String.toList same
  have cut := congrArg (List.take t.length) lists
  have room : min (t.length - s.length) i = t.length - s.length := by omega
  rw [List.take_append,List.take_append,List.take_replicate,String.length_toList,String.length_toList,Nat.sub_self,
    List.take_zero,List.append_nil,room,List.take_of_length_le (String.length_toList ▸ shorter),
    List.take_of_length_le (Nat.le_of_eq String.length_toList)] at cut
  rw [← String.toList_inj,String.toList_append,blanks,String.toList_ofList]
  exact cut.symm

-- One text is the other one with blanks behind it, and there is room for both.
def Alike (room : String → Prop) (s t : String) : Prop :=
  ∃ n, (t = s ++ blanks n ∨ s = t ++ blanks n) ∧ (n = 0 ∨ room s ∧ room t)

theorem Alike.symm {room : String → Prop} (alike : Alike room s t) : Alike room t s := by
  obtain ⟨n,either,fits⟩ := alike
  exact ⟨n,either.symm,fits.imp_right And.symm⟩

theorem padRight_longer (same : padRight width s = padRight width t) (shorter : s.length ≤ t.length) :
    Alike (·.length ≤ width) s t := by
  rw [padRight_eq,padRight_eq] at same
  have lengths := congrArg String.length same
  simp only [String.length_append,length_blanks] at lengths
  exact ⟨t.length - s.length,.inl (append_blanks_eq same shorter),by omega⟩

theorem padRight_blanks (fits : n = 0 ∨ (s ++ blanks n).length ≤ width) :
    padRight width (s ++ blanks n) = padRight width s := by
  rcases fits with rfl | fits
  · rw [append_no_blanks]
  · rw [String.length_append,length_blanks] at fits
    have parts : width - s.length = n + (width - (s.length + n)) := by omega
    rw [padRight_eq,padRight_eq,String.length_append,length_blanks,parts,blanks_add,String.append_assoc]

theorem padRight_inj : padRight width s = padRight width t ↔ Alike (·.length ≤ width) s t := by
  constructor
  · intro same
    rcases Nat.le_total s.length t.length with shorter | longer
    · exact padRight_longer same shorter
    · exact (padRight_longer same.symm longer).symm
  · rintro ⟨n,rfl | rfl,fits⟩
    · exact (padRight_blanks (fits.imp_right And.right)).symm
    · exact padRight_blanks (fits.imp_right And.left)

end Text

-- Without colours, nothing in a line is a mark of one.
theorem Inline.unmarked {ts : List String} {s : String} (inline : Inline false ts s) : '\x1b' ∉ s.toList := by
  intro member
  cases (inline.control _ member (by decide)).1

-- Texts cut at a mark: the first one if none stands before it, the last one if none stands behind it.
section Cuts
variable {c : Char} {a b x y : String}

theorem cut_lists {as bs xs ys : List Char} (left : c ∉ as) (right : c ∉ bs)
    (same : as ++ c :: xs = bs ++ c :: ys) : as = bs ∧ xs = ys := by
  induction as generalizing bs with
  | nil =>
    cases bs with
    | nil => exact ⟨rfl,(List.cons.inj same).2⟩
    | cons b bs =>
      obtain ⟨rfl,_⟩ := List.cons.inj same
      exact absurd List.mem_cons_self right
  | cons a as ih =>
    cases bs with
    | nil =>
      obtain ⟨rfl,_⟩ := List.cons.inj same
      exact absurd List.mem_cons_self left
    | cons b bs =>
      obtain ⟨rfl,rest⟩ := List.cons.inj same
      obtain ⟨rfl,behind⟩ :=
        ih (fun m => left (List.mem_cons_of_mem _ m)) (fun m => right (List.mem_cons_of_mem _ m)) rest
      exact ⟨rfl,behind⟩

theorem toList_cut (a x : String) : (a ++ String.singleton c ++ x).toList = a.toList ++ c :: x.toList := by
  rw [String.toList_append,String.toList_append,String.toList_singleton,List.append_assoc,List.singleton_append]

theorem cut_first (left : c ∉ a.toList) (right : c ∉ b.toList) :
    a ++ String.singleton c ++ x = b ++ String.singleton c ++ y ↔ a = b ∧ x = y := by
  constructor
  · intro same
    have lists := congrArg String.toList same
    rw [toList_cut,toList_cut] at lists
    exact (cut_lists left right lists).imp String.toList_inj.mp String.toList_inj.mp
  · rintro ⟨rfl,rfl⟩
    rfl

theorem cut_last (left : c ∉ x.toList) (right : c ∉ y.toList) :
    a ++ String.singleton c ++ x = b ++ String.singleton c ++ y ↔ a = b ∧ x = y := by
  constructor
  · intro same
    have lists := congrArg (fun s => s.toList.reverse) same
    simp only [toList_cut,List.reverse_append,List.reverse_cons,List.append_assoc,List.singleton_append] at lists
    obtain ⟨behind,before⟩ := cut_lists (by simpa using left) (by simpa using right) lists
    exact ⟨String.toList_inj.mp (List.reverse_injective before),String.toList_inj.mp (List.reverse_injective behind)⟩
  · rintro ⟨rfl,rfl⟩
    rfl

end Cuts

theorem Paint.wrap_inj (p : Paint) {s t : String} : p.wrap s = p.wrap t ↔ s = t := by
  unfold wrap
  rw [String.append_left_inj,String.append_right_inj]

namespace Report
open Text (escapeControl escapeControl_injective)

namespace LineStyle
variable {st : LineStyle} {s t : String}

theorem paint_inj (p : Paint) : st.paint p s = st.paint p t ↔ s = t := by
  unfold paint
  split
  · exact p.wrap_inj
  · exact Iff.rfl

end LineStyle

-- Ids of rules that their column shows alike.
def RuleAlike (s t : String) : Prop := Text.Alike (fun t => (escapeControl t).length ≤ 24) s t

section Columns
variable {s t : String} {n : Nat}

theorem escapeControl_followed : escapeControl t = escapeControl s ++ Text.blanks n ↔ t = s ++ Text.blanks n := by
  rw [← Text.escapeControl_blanks,← Text.escapeControl_append,escapeControl_injective.eq_iff,
    Text.escapeControl_blanks]

theorem padded_inj : Text.padRight 24 (escapeControl s) = Text.padRight 24 (escapeControl t) ↔ RuleAlike s t := by
  rw [Text.padRight_inj]
  simp only [RuleAlike,Text.Alike,escapeControl_followed]

end Columns

section Marks
variable {s t x y : String}

theorem wrap_cut (p : Paint) (left : '\x1b' ∉ s.toList) (right : '\x1b' ∉ t.toList) :
    p.wrap s ++ x = p.wrap t ++ y ↔ s = t ∧ x = y := by
  have parts : ∀ s x : String, p.wrap s ++ x =
      "\x1b[" ++ ";".intercalate (p.codes.map toString) ++ "m" ++ (s ++ String.singleton '\x1b' ++ ("[0m" ++ x)) := by
    intro s x
    have stop : "\x1b[0m" = String.singleton '\x1b' ++ "[0m" := by decide
    rw [Paint.wrap,stop]
    simp only [String.append_assoc]
  rw [parts,parts,String.append_right_inj,cut_first left right,String.append_right_inj]

theorem number_digits (n : Nat) : ∀ c ∈ (toString n).toList, c.isDigit = true := by
  rw [Nat.toString_eq_ofList_toDigits,String.toList_ofList]
  exact fun c member => Nat.isDigit_of_mem_toDigits (by decide) (by decide) member

theorem number_without {c : Char} (other : c.isDigit = false) (n : Nat) : c ∉ (toString n).toList :=
  fun member => Bool.eq_false_iff.mp other (number_digits n c member)

theorem toString_inj {m n : Nat} : toString m = toString n ↔ m = n := by
  constructor
  · intro same
    have digits := congrArg (fun s : String => Nat.ofDigitChars 10 s.toList 0) same
    simpa [Nat.toString_eq_ofList_toDigits] using digits
  · rintro rfl
    rfl

end Marks

namespace LineStyle
variable {st : LineStyle} {x y : String} {s t : Severity}

theorem severityTag_injective : Function.Injective st.severityTag := by
  obtain ⟨colour,scopes⟩ := st
  intro s t
  cases colour <;> cases s <;> cases t <;> decide +kernel +revert

theorem severityTag_length (st : LineStyle) (s : Severity) :
    (st.severityTag s).length = if st.colour then 15 else 6 := by
  obtain ⟨colour,scopes⟩ := st
  cases colour <;> cases s <;> decide +kernel +revert

theorem severityTag_cut : st.severityTag s ++ x = st.severityTag t ++ y ↔ s = t ∧ x = y := by
  constructor
  · intro same
    have lists := congrArg String.toList same
    rw [String.toList_append,String.toList_append] at lists
    have lengths : (st.severityTag s).toList.length = (st.severityTag t).toList.length := by
      rw [String.length_toList,String.length_toList,severityTag_length,severityTag_length]
    obtain ⟨tags,behind⟩ := List.append_inj lists lengths
    exact ⟨severityTag_injective (String.toList_inj.mp tags),String.toList_inj.mp behind⟩
  · rintro ⟨rfl,rfl⟩
    rfl

-- The place of a violation ends in two numbers.
theorem place_cut {file other : String} {p q : Span} :
    escapeControl file ++ ":" ++ p.place = escapeControl other ++ ":" ++ q.place ↔
      file = other ∧ p.startLine = q.startLine ∧ p.startColumn = q.startColumn := by
  have parts : ∀ (file : String) (p : Span), escapeControl file ++ ":" ++ p.place = escapeControl file ++
      String.singleton ':' ++ toString p.startLine ++ String.singleton ':' ++ toString p.startColumn := by
    intro file p
    have colon : ":" = String.singleton ':' := by decide
    have place : p.place = toString p.startLine ++ ":" ++ toString p.startColumn := rfl
    rw [place,colon]
    simp only [String.append_assoc]
  have number := fun n => number_without (c := ':') (by decide) n
  rw [parts,parts,cut_last (number _) (number _),cut_last (number _) (number _),escapeControl_injective.eq_iff,
    toString_inj,toString_inj,and_assoc]

theorem place_inj {p q : Span} : p.place = q.place ↔ p.startLine = q.startLine ∧ p.startColumn = q.startColumn := by
  have placed : escapeControl "" ++ ":" ++ p.place = escapeControl "" ++ ":" ++ q.place ↔ _ := place_cut
  rwa [String.append_right_inj,and_iff_right rfl] at placed

theorem place_unbroken (p : Span) : ' ' ∉ p.place.toList := by
  have place : p.place = toString p.startLine ++ ":" ++ toString p.startColumn := rfl
  have number := fun n => number_without (c := ' ') (by decide) n
  rw [place,String.toList_append,String.toList_append,List.mem_append,List.mem_append]
  exact fun member => member.elim (·.elim (number _) (by decide)) (number _)

theorem place_unmarked (file : String) (p : Span) : '\x1b' ∉ (escapeControl file ++ ":" ++ p.place).toList := by
  have colon := Inline.between false ":" (by decide)
  have numbers := ((Inline.number false p.startLine).append colon).append (.number false p.startColumn)
  exact (((Inline.escaped false file).append colon).append numbers).unmarked

-- In any style, a place in the same file is told from what follows it.
theorem place_then {file : String} {p q : Span} :
    st.paint .blue (escapeControl file ++ ":" ++ p.place) ++ (" " ++ x) =
        st.paint .blue (escapeControl file ++ ":" ++ q.place) ++ (" " ++ y) ↔
      (p.startLine = q.startLine ∧ p.startColumn = q.startColumn) ∧ x = y := by
  unfold paint
  split
  · rw [wrap_cut _ (place_unmarked _ _) (place_unmarked _ _),place_cut,and_iff_right rfl,String.append_right_inj]
  · have blank : " " = String.singleton ' ' := by decide
    simp only [String.append_assoc,String.append_right_inj]
    rw [blank,← String.append_assoc,← String.append_assoc,cut_first (place_unbroken p) (place_unbroken q),place_inj]

theorem violationLine_parts (v : Violation) : st.violationLine v =
    st.severityTag v.severity ++ (" " ++ (st.paint .blue (escapeControl v.file ++ ":" ++ v.span.place) ++ (" " ++
      (st.ruleColumn v.rule ++ (" " ++ (escapeControl v.message ++ st.scopeNote v.scope)))))) := by
  simp only [← String.append_assoc]
  rfl

-- What follows a message starts with a mark, behind a blank.
theorem scopeNote_cases (scopes : Bool) (c : Scope) : LineStyle.scopeNote ⟨true,scopes⟩ c = "" ∨
    ∃ rest, LineStyle.scopeNote ⟨true,scopes⟩ c = " " ++ String.singleton '\x1b' ++ rest := by
  unfold scopeNote
  dsimp only
  split
  · have start : "\x1b[" = String.singleton '\x1b' ++ "[" := by decide
    refine .inr ?_
    rw [paint,if_pos rfl,Paint.wrap,start]
    simp only [String.append_assoc]
    exact ⟨_,rfl⟩
  · exact .inl rfl

theorem message_cut {scopes : Bool} {m n : String} {c d : Scope} :
    escapeControl m ++ LineStyle.scopeNote ⟨true,scopes⟩ c = escapeControl n ++ LineStyle.scopeNote ⟨true,scopes⟩ d ↔
      m = n ∧ LineStyle.scopeNote ⟨true,scopes⟩ c = LineStyle.scopeNote ⟨true,scopes⟩ d := by
  have unmarked := fun m => (Inline.escaped false m).unmarked
  have followed := fun m => ((Inline.escaped false m).append (.between false " " (by decide))).unmarked
  constructor
  · intro same
    rcases scopeNote_cases scopes c with one | ⟨x,one⟩ <;> rcases scopeNote_cases scopes d with two | ⟨y,two⟩ <;>
      rw [one,two] at same ⊢
    · rw [String.append_empty,String.append_empty] at same
      exact ⟨escapeControl_injective same,rfl⟩
    · refine absurd ?_ (unmarked m)
      rw [← String.append_empty (s := escapeControl m),same]
      simp
    · refine absurd ?_ (unmarked n)
      rw [← String.append_empty (s := escapeControl n),← same]
      simp
    · rw [← String.append_assoc,← String.append_assoc,← String.append_assoc,← String.append_assoc,
        cut_first (followed m) (followed n),String.append_left_inj] at same
      exact ⟨escapeControl_injective same.1,by rw [same.2]⟩
  · rintro ⟨rfl,same⟩
    rw [same]

-- What a coloured line tells: all that it shows, but for the blanks of its column.
theorem violationLine_coloured (scopes : Bool) (v w : Violation) :
    LineStyle.violationLine ⟨true,scopes⟩ v = LineStyle.violationLine ⟨true,scopes⟩ w ↔
      v.severity = w.severity ∧ (v.file = w.file ∧ v.span.startLine = w.span.startLine ∧
        v.span.startColumn = w.span.startColumn) ∧ RuleAlike v.rule w.rule ∧ v.message = w.message ∧
          LineStyle.scopeNote ⟨true,scopes⟩ v.scope = LineStyle.scopeNote ⟨true,scopes⟩ w.scope := by
  have padded := fun s => (Inline.padRight 24 (.escaped false s)).unmarked
  have column : ∀ rule, LineStyle.ruleColumn ⟨true,scopes⟩ rule =
      Paint.dim.wrap (Text.padRight 24 (escapeControl rule)) := fun _ => rfl
  have place : ∀ s, LineStyle.paint ⟨true,scopes⟩ .blue s = Paint.blue.wrap s := fun _ => rfl
  rw [violationLine_parts,violationLine_parts,severityTag_cut,String.append_right_inj,place,place,
    wrap_cut _ (place_unmarked _ _) (place_unmarked _ _),place_cut,String.append_right_inj,column,column,
    wrap_cut _ (padded _) (padded _),padded_inj,String.append_right_inj,message_cut]

theorem processingLine_coloured (scopes : Bool) (e f : ProcessingError) :
    LineStyle.processingLine ⟨true,scopes⟩ e = LineStyle.processingLine ⟨true,scopes⟩ f ↔
      e.file = f.file ∧ e.detail = f.detail := by
  have parts : ∀ e : ProcessingError, LineStyle.processingLine ⟨true,scopes⟩ e =
      Paint.boldRed.wrap "FAILED" ++ " " ++ (Paint.blue.wrap (escapeControl e.file) ++ (": " ++
        escapeControl e.detail)) := by
    intro e
    simp only [← String.append_assoc]
    rfl
  have unmarked := fun s => (Inline.escaped false s).unmarked
  rw [parts,parts,String.append_right_inj,wrap_cut _ (unmarked _) (unmarked _),escapeControl_injective.eq_iff,
    String.append_right_inj,escapeControl_injective.eq_iff]

theorem configurationLine_coloured (scopes : Bool) (e f : ConfigurationError) :
    LineStyle.configurationLine ⟨true,scopes⟩ e = LineStyle.configurationLine ⟨true,scopes⟩ f ↔
      RuleAlike e.rule f.rule ∧ e.detail = f.detail := by
  have parts : ∀ e : ConfigurationError, LineStyle.configurationLine ⟨true,scopes⟩ e =
      Paint.boldRed.wrap "CONFIG" ++ " " ++ (Paint.dim.wrap (Text.padRight 24 (escapeControl e.rule)) ++ (" " ++
        escapeControl e.detail)) := by
    intro e
    simp only [← String.append_assoc]
    rfl
  have padded := fun s => (Inline.padRight 24 (.escaped false s)).unmarked
  rw [parts,parts,String.append_right_inj,wrap_cut _ (padded _) (padded _),padded_inj,String.append_right_inj,
    escapeControl_injective.eq_iff]

end LineStyle

end Report
end TreeAudit
