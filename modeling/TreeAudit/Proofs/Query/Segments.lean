import TreeAudit.Proofs.Query.Words

-- How a text falls into tokens. It is a row of words with blanks between them: no character is lost or taken
-- twice, and each word is read as if it stood alone. Words with blanks between all of them are read as what
-- they write.
namespace TreeAudit

namespace Text
variable {before part after : List Char}

theorem byteLength_ofList (cs : List Char) : (String.ofList cs).utf8ByteSize = byteLength cs := by
  induction cs with
  | nil => rfl
  | cons c cs ih =>
    rw [← List.singleton_append,String.ofList_append,String.utf8ByteSize_append,ih,← String.singleton_eq_ofList,
      String.utf8ByteSize_singleton]
    rfl

theorem splitAtByte_append (before after : List Char) :
    splitAtByte? (byteLength before) (before ++ after) = some (before,after) := by
  induction before with
  | nil => rw [List.nil_append,byteLength,List.foldr_nil,splitAtByte?]
  | cons c before ih =>
    have some := c.utf8Size_pos
    have width : byteLength (c :: before) = c.utf8Size + byteLength before - 1 + 1 := by
      change c.utf8Size + byteLength before = _
      omega
    have left : c.utf8Size + byteLength before - 1 + 1 - c.utf8Size = byteLength before := by omega
    rw [width,List.cons_append,splitAtByte?,if_pos (by omega),left,ih]
    rfl

theorem slice_between (before part after : List Char) :
    slice? (String.ofList (before ++ (part ++ after))) (byteLength before) (byteLength before + byteLength part) =
      some (String.ofList part) := by
  rw [slice?,if_pos (Nat.le_add_right _ _),String.toList_ofList,splitAtByte_append,Nat.add_sub_cancel_left]
  change (splitAtByte? (byteLength part) (part ++ after)).bind _ = _
  rw [splitAtByte_append]
  rfl

theorem isValid_before (before after : List Char) :
    (⟨byteLength before⟩ : String.Pos.Raw).IsValid (String.ofList (before ++ after)) := by
  rw [String.ofList_append,← byteLength_ofList]
  exact String.Pos.Raw.isValid_rawEndPos.append_right _

end Text

namespace Query

-- A word with the blanks behind it.
structure Piece where
  symbol : Symbol
  word : List Char
  gap : List Char
  writes : Writes symbol word
  blank : ∀ c ∈ gap, Unicode.isBlank c = true

namespace Piece

def text (p : Piece) : List Char := p.word ++ p.gap

-- The pieces one after the other.
def spread (ps : List Piece) : List Char := ps.flatMap text

theorem spread_cons (p : Piece) (ps : List Piece) : spread (p :: ps) = p.text ++ spread ps := List.flatMap_cons

-- The tokens that the pieces make if the first one stands at an offset.
def placed (offset : Nat) : List Piece → List Token
  | [] => [⟨.finish,offset⟩]
  | p :: ps => ⟨p.symbol,offset⟩ :: placed (offset + Text.byteLength p.text) ps

end Piece

open Piece
variable {source : String} {lead cs rest : List Char} {p : Piece} {ps : List Piece} {ts : List Token} {offset : Nat}
  {failure : Failure} {symbol : Symbol} {word : List Char}

theorem stops_gap (p : Piece) (ends : p.gap ≠ [] ∨ rest = []) : Stops (p.gap ++ rest) := by
  intro d first
  cases gap : p.gap with
  | nil =>
    rw [gap,ends.resolve_left fun some => some gap] at first
    cases first
  | cons c others =>
    rw [gap] at first
    cases first
    exact p.blank d (gap ▸ List.mem_cons_self)

theorem tokensFrom_blank (blank : ∀ c ∈ lead, Unicode.isBlank c = true) (offset : Nat) (cs : List Char) :
    tokensFrom offset (lead ++ cs) = tokensFrom (offset + Text.byteLength lead) cs := by
  induction lead generalizing offset with
  | nil => rfl
  | cons c lead ih =>
    obtain ⟨first,later⟩ := List.forall_mem_cons.mp blank
    rw [List.cons_append,tokensFrom,if_pos first,ih later,Nat.add_assoc]
    rfl

theorem tokensFrom_word (writes : Writes symbol word) (stops : Stops rest) (offset : Nat) :
    tokensFrom offset (word ++ rest) =
      (⟨symbol,offset⟩ :: ·) <$> tokensFrom (offset + Text.byteLength word) rest := by
  obtain ⟨c,cs,rfl,inked,scanned⟩ := scan_written writes stops
  rw [List.cons_append,tokensFrom_scan inked scanned,← List.cons_append,Text.byteLength_append,Nat.add_sub_cancel]

-- By induction on the pieces, each of which stops where its blanks begin.
theorem tokensFrom_spread (apart : ∀ p ∈ ps.dropLast, p.gap ≠ []) (offset : Nat) :
    tokensFrom offset (spread ps) = .ok (placed offset ps) := by
  induction ps generalizing offset with
  | nil =>
    rw [spread,List.flatMap_nil,tokensFrom]
    rfl
  | cons p ps ih =>
    have ends : p.gap ≠ [] ∨ spread ps = [] := by
      cases ps with
      | nil => exact .inr rfl
      | cons q ps => exact .inl (apart p (by simp))
    have later : ∀ q ∈ ps.dropLast, q.gap ≠ [] := by
      intro q member
      cases ps with
      | nil => cases member
      | cons r ps => exact apart q (List.mem_cons_of_mem _ member)
    have next := ih later (offset + Text.byteLength p.word + Text.byteLength p.gap)
    rw [spread_cons,text,List.append_assoc,tokensFrom_word p.writes (stops_gap p ends),tokensFrom_blank p.blank,next,
      placed,text,Text.byteLength_append,Nat.add_assoc]
    rfl

-- By induction along the scanner: what it reads as a symbol is a word, and the blanks that it then passes over
-- stand behind that word.
theorem tokensFrom_pieces (scanned : tokensFrom offset cs = .ok ts) :
    ∃ lead ps, (∀ c ∈ lead, Unicode.isBlank c = true) ∧ cs = lead ++ spread ps ∧
      ts = placed (offset + Text.byteLength lead) ps := by
  induction offset, cs using tokensFrom.induct generalizing ts with
  | case1 offset =>
    rw [tokensFrom] at scanned
    cases scanned
    exact ⟨[],[],List.forall_mem_nil _,rfl,rfl⟩
  | case2 offset c cs blank ih =>
    rw [tokensFrom,if_pos blank] at scanned
    obtain ⟨lead,ps,blanks,rfl,rfl⟩ := ih scanned
    refine ⟨c :: lead,ps,List.forall_mem_cons.mpr ⟨blank,blanks⟩,rfl,?_⟩
    rw [Nat.add_assoc]
    rfl
  | case3 offset c cs inked problem read =>
    cases scanned.symm.trans (tokensFrom_refused (Bool.eq_false_iff.mpr inked) read offset)
  | case4 offset c cs inked symbol rest read width =>
    rename_i ih
    have visible := Bool.eq_false_iff.mpr inked
    obtain ⟨word,writes,same⟩ := scan_canonical read
    have passed : width = Text.byteLength word := by
      change Text.byteLength (c :: cs) - Text.byteLength rest = _
      rw [same,Text.byteLength_append,Nat.add_sub_cancel]
    obtain ⟨later,found,last⟩ := map_ok ((tokensFrom_scan visible read offset).symm.trans scanned)
    cases last
    obtain ⟨gap,ps,blank,rfl,rfl⟩ := ih found
    refine ⟨[],⟨symbol,word,gap,writes,blank⟩ :: ps,List.forall_mem_nil _,?_,?_⟩
    · rw [same,List.nil_append,spread_cons,text,List.append_assoc]
    · rw [placed,text,Text.byteLength_append,passed,Nat.add_assoc]
      rfl

theorem tokensFrom_error (failed : tokensFrom offset cs = .error failure) :
    ∃ before after problem, cs = before ++ after ∧ after ≠ [] ∧
      failure = .badSyntax (offset + Text.byteLength before) problem ∧ ∀ text, problem ≠ .badNumber text := by
  induction offset, cs using tokensFrom.induct with
  | case1 offset =>
    rw [tokensFrom] at failed
    cases failed
  | case2 offset c cs blank ih =>
    rw [tokensFrom,if_pos blank] at failed
    obtain ⟨before,after,problem,rfl,some,rfl,other⟩ := ih failed
    refine ⟨c :: before,after,problem,rfl,some,?_,other⟩
    rw [Nat.add_assoc]
    rfl
  | case3 offset c cs inked problem read =>
    cases failed.symm.trans (tokensFrom_refused (Bool.eq_false_iff.mpr inked) read offset)
    exact ⟨[],_,problem,rfl,List.cons_ne_nil _ _,rfl,scan_error read⟩
  | case4 offset c cs inked symbol rest read width =>
    rename_i ih
    have visible := Bool.eq_false_iff.mpr inked
    obtain ⟨word,_,same⟩ := scan_canonical read
    have passed : width = Text.byteLength word := by
      change Text.byteLength (c :: cs) - Text.byteLength rest = _
      rw [same,Text.byteLength_append,Nat.add_sub_cancel]
    have later := map_error ((tokensFrom_scan visible read offset).symm.trans failed)
    obtain ⟨before,after,problem,rfl,some,rfl,known⟩ := ih later
    refine ⟨word ++ before,after,problem,?_,some,?_,known⟩
    · rw [same,List.append_assoc]
    · rw [passed,Text.byteLength_append,Nat.add_assoc]

theorem Writes.shown (writes : Writes symbol word) : symbol ≠ .finish := by
  rintro rfl
  cases writes with
  | sign sign => cases sign

theorem placed_head (offset : Nat) (ps : List Piece) : ∃ k ts, placed offset ps = k :: ts ∧ k.offset = offset := by
  cases ps with
  | nil => exact ⟨_,_,rfl,rfl⟩
  | cons p ps => exact ⟨_,_,rfl,rfl⟩

theorem placed_ended (offset : Nat) (ps : List Piece) : ∃ shown,
    placed offset ps = shown ++ [⟨.finish,offset + Text.byteLength (spread ps)⟩] ∧
      shown.map Token.symbol = ps.map Piece.symbol := by
  induction ps generalizing offset with
  | nil => exact ⟨[],rfl,rfl⟩
  | cons p ps ih =>
    obtain ⟨shown,same,symbols⟩ := ih (offset + Text.byteLength p.text)
    refine ⟨⟨p.symbol,offset⟩ :: shown,?_,by rw [List.map_cons,List.map_cons,symbols]⟩
    rw [placed,same,spread_cons,Text.byteLength_append,Nat.add_assoc]
    rfl

theorem placed_valid (before : List Char) (ps : List Piece) :
    ∀ k ∈ placed (Text.byteLength before) ps,
      (⟨k.offset⟩ : String.Pos.Raw).IsValid (String.ofList (before ++ spread ps)) := by
  induction ps generalizing before with
  | nil => exact List.forall_mem_singleton.mpr (Text.isValid_before before _)
  | cons p ps ih =>
    refine List.forall_mem_cons.mpr ⟨Text.isValid_before before _,?_⟩
    have later := ih (before ++ p.text)
    rwa [Text.byteLength_append,List.append_assoc,← spread_cons] at later

-- From the place of a token to that of the next one there stands a text of its own.
def ReadsAlone (source : String) (k next : Token) : Prop :=
  k.offset < next.offset ∧ ∃ part, Text.slice? source k.offset next.offset = some part ∧
    tokenize part = .ok [⟨k.symbol,0⟩,⟨.finish,part.utf8ByteSize⟩]

theorem Piece.reads (p : Piece) :
    tokenize (String.ofList p.text) = .ok [⟨p.symbol,0⟩,⟨.finish,(String.ofList p.text).utf8ByteSize⟩] := by
  have alone := @tokensFrom_spread [p] (fun q member => by cases member) 0
  rw [spread,List.flatMap_singleton,placed,placed,Nat.zero_add] at alone
  rw [tokenize,String.toList_ofList,alone,Text.byteLength_ofList]

theorem placed_alone (before : List Char) (ps : List Piece) :
    (placed (Text.byteLength before) ps).IsChain (ReadsAlone (String.ofList (before ++ spread ps))) := by
  induction ps generalizing before with
  | nil => exact .singleton _
  | cons p ps ih =>
    have later := ih (before ++ p.text)
    rw [Text.byteLength_append,List.append_assoc,← spread_cons] at later
    obtain ⟨next,ts,start,stands⟩ := placed_head (Text.byteLength before + Text.byteLength p.text) ps
    rw [placed]
    rw [start] at later ⊢
    refine .cons_cons ⟨?_,String.ofList p.text,?_,p.reads⟩ later
    · have ends : Stops [] := fun d none => by cases none
      obtain ⟨c,cs,same,_⟩ := scan_written p.writes ends
      have some := c.utf8Size_pos
      rw [stands,text,same,Text.byteLength_append]
      change Text.byteLength before < Text.byteLength before + (c.utf8Size + Text.byteLength cs + _)
      omega
    · rw [stands]
      exact Text.slice_between before p.text (spread ps)

-- What it means that tokens are those of a text.
structure Segmented (source : String) (ts : List Token) : Prop where
  ended : ∃ shown, ts = shown ++ [⟨.finish,source.utf8ByteSize⟩] ∧ ∀ k ∈ shown, k.symbol ≠ .finish
  valid : ∀ k ∈ ts, (⟨k.offset⟩ : String.Pos.Raw).IsValid source
  led : ∀ k ∈ ts.head?, ∃ lead, Text.slice? source 0 k.offset = some lead ∧
    ∀ c ∈ lead.toList, Unicode.isBlank c = true
  alone : ts.IsChain (ReadsAlone source)

-- A failure inside a text that no numeral is to blame for.
def Misread (source : String) (f : Failure) : Prop :=
  ∃ offset problem, f = .badSyntax offset problem ∧ (⟨offset⟩ : String.Pos.Raw).IsValid source ∧
    offset < source.utf8ByteSize ∧ ∀ text, problem ≠ .badNumber text

theorem tokenize_segments (source : String) : Ends (Segmented source) (Misread source) (tokenize source) := by
  have whole : source = String.ofList source.toList := String.ofList_toList.symm
  cases scanned : tokenize source with
  | ok ts =>
    obtain ⟨lead,ps,blank,same,rfl⟩ := tokensFrom_pieces scanned
    rw [Nat.zero_add] at scanned ⊢
    rw [whole,same]
    obtain ⟨shown,ends,symbols⟩ := placed_ended (Text.byteLength lead) ps
    refine ⟨⟨shown,?_,fun k member finish => ?_⟩,placed_valid lead ps,fun k first => ?_,placed_alone lead ps⟩
    · rw [ends,Text.byteLength_ofList,Text.byteLength_append]
    · have among : k.symbol ∈ ps.map Piece.symbol := symbols ▸ List.mem_map_of_mem member
      obtain ⟨p,_,written⟩ := List.mem_map.mp among
      exact p.writes.shown (written.trans finish)
    · obtain ⟨next,ts,start,stands⟩ := placed_head (Text.byteLength lead) ps
      rw [start] at first
      cases first
      refine ⟨String.ofList lead,?_,by rwa [String.toList_ofList]⟩
      have slice := Text.slice_between [] lead (spread ps)
      rw [stands]
      rwa [List.nil_append,Text.byteLength,List.foldr_nil,Nat.zero_add] at slice
  | error failure =>
    obtain ⟨before,after,problem,same,some,rfl,known⟩ := tokensFrom_error scanned
    refine ⟨_,problem,rfl,?_,?_,known⟩
    · rw [whole,same,Nat.zero_add]
      exact Text.isValid_before before after
    · obtain ⟨c,cs,rfl⟩ := List.exists_cons_of_ne_nil some
      have wide := c.utf8Size_pos
      rw [whole,same,Text.byteLength_ofList,Text.byteLength_append]
      change _ < Text.byteLength before + (c.utf8Size + Text.byteLength cs)
      omega

-- What can be written: all but the end, names as far as they are well formed and numbers that a numeral has.
def Symbol.Writable : Symbol → Prop
  | .name word => IsFullName word.toList
  | .number x => ∃ numeral, IsNumeral numeral ∧ Decimal.read? (String.ofList numeral) = some x
  | .finish => False
  | _ => True

theorem Symbol.Writable.writes (writable : symbol.Writable) : ∃ word, Writes symbol word := by
  cases symbol with
  | name word => exact ⟨_,.name writable⟩
  | string body => exact ⟨_,.string (.inl rfl)⟩
  | number x =>
    obtain ⟨numeral,spelt,value⟩ := writable
    exact ⟨numeral,.number spelt value⟩
  | finish => exact writable.elim
  | _ => exact ⟨_,.sign rfl⟩

theorem pieces_of_writable {symbols : List Symbol} (writable : ∀ s ∈ symbols, s.Writable) :
    ∃ ps : List Piece, ps.map Piece.symbol = symbols ∧ ∀ p ∈ ps, p.gap ≠ [] := by
  induction symbols with
  | nil => exact ⟨[],rfl,List.forall_mem_nil _⟩
  | cons symbol symbols ih =>
    obtain ⟨first,later⟩ := List.forall_mem_cons.mp writable
    obtain ⟨word,writes⟩ := first.writes
    obtain ⟨ps,same,apart⟩ := ih later
    let p : Piece := ⟨symbol,word,[' '],writes,List.forall_mem_singleton.mpr (by decide)⟩
    exact ⟨p :: ps,by rw [List.map_cons,same],List.forall_mem_cons.mpr ⟨List.cons_ne_nil _ _,apart⟩⟩

-- Symbols can be written with blanks between them, and whichever way they are, they are read back and nothing else.
theorem written_read {symbols : List Symbol} (writable : ∀ s ∈ symbols, s.Writable) :
    (∃ ps : List Piece, ps.map Piece.symbol = symbols ∧ ∀ p ∈ ps, p.gap ≠ []) ∧
      ∀ ps : List Piece, ps.map Piece.symbol = symbols → (∀ p ∈ ps.dropLast, p.gap ≠ []) →
        ∃ shown, tokenize (String.ofList (spread ps)) =
            .ok (shown ++ [⟨.finish,(String.ofList (spread ps)).utf8ByteSize⟩]) ∧
          shown.map Token.symbol = symbols := by
  refine ⟨pieces_of_writable writable,fun ps same apart => ?_⟩
  obtain ⟨shown,ends,spelt⟩ := placed_ended 0 ps
  refine ⟨shown,?_,spelt.trans same⟩
  rw [tokenize,String.toList_ofList,tokensFrom_spread apart,ends,Nat.zero_add,Text.byteLength_ofList]

-- A qualified name, a text of two quotes in quotes of the same kind, and a number without digits before its point.
theorem written_read_sample :
    let symbols : List Symbol := [.name "größe:a-1",.string "''",.number 0.5]
    (∀ s ∈ symbols, s.Writable) ∧ ∃ shown,
      tokenize "größe:a-1 \t''''''\u3000.5" = .ok (shown ++ [⟨.finish,24⟩]) ∧ shown.map Token.symbol = symbols := by
  intro symbols
  have letters : "größe:a-1".toList = ['g','r','ö','ß','e',':','a','-','1'] := by decide +kernel
  have named : IsFullName "größe:a-1".toList := letters ▸
    @IsFullName.qualified ['g','r','ö','ß','e'] ['a','-','1']
      (.intro (by decide) (List.all_eq_true.mp (by decide))) (.intro (by decide) (List.all_eq_true.mp (by decide)))
  have spelt : IsNumeral ['.','5'] := @IsNumeral.pointed [] ['5'] (List.forall_mem_nil _) (List.cons_ne_nil _ _)
    (List.forall_mem_singleton.mpr (by decide))
  have value : Decimal.read? (String.ofList ['.','5']) = some 0.5 := by decide +kernel
  have writable : ∀ s ∈ symbols, s.Writable :=
    List.forall_mem_cons.mpr ⟨named,List.forall_mem_cons.mpr ⟨trivial,List.forall_mem_singleton.mpr ⟨_,spelt,value⟩⟩⟩
  let ps : List Piece := [
    ⟨_,_,[' ','\t'],.name named,List.all_eq_true.mp (by decide)⟩,
    ⟨_,_,['\u3000'],@Writes.string '\'' "''" (.inl rfl),List.all_eq_true.mp (by decide)⟩,
    ⟨_,_,[],.number spelt value,List.forall_mem_nil _⟩]
  have text : String.ofList (spread ps) = "größe:a-1 \t''''''\u3000.5" := by
    change String.ofList (("größe:a-1".toList ++ [' ','\t']) ++
      ((enquoted '\'' "''".toList ++ ['\u3000']) ++ ((['.','5'] ++ []) ++ []))) = _
    decide +kernel
  have apart : ∀ p ∈ ps.dropLast, p.gap ≠ [] :=
    List.forall_mem_cons.mpr ⟨List.cons_ne_nil _ _,List.forall_mem_singleton.mpr (List.cons_ne_nil _ _)⟩
  obtain ⟨shown,scanned,same⟩ := (written_read writable).2 ps rfl apart
  rw [text] at scanned
  have size : ("größe:a-1 \t''''''\u3000.5" : String).utf8ByteSize = 24 := by decide +kernel
  rw [size] at scanned
  exact ⟨writable,shown,scanned,same⟩

end Query
end TreeAudit
