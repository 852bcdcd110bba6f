import TreeAudit.Proofs.Query.Outcome
import TreeAudit.Query.Lexeme

-- Where tokens stand. The symbols of a text are found one after another, so that a token carries the number
-- of bytes before the characters it was read from. The end stands behind all others, and only there.
namespace TreeAudit
variable {c : Char} {cs rest text : List Char}

theorem Text.byteLength_append (before after : List Char) :
    Text.byteLength (before ++ after) = Text.byteLength before + Text.byteLength after := by
  induction before with
  | nil => exact (Nat.zero_add _).symm
  | cons c before ih =>
    change c.utf8Size + Text.byteLength (before ++ after) = _
    rw [ih,← Nat.add_assoc]
    rfl

namespace Query
-- Tokens up to an end, which is the only one among them.
inductive Ended : List Token → Prop
  | last (k : Token) : k.symbol = .finish → Ended [k]
  | more (k : Token) {ts : List Token} : k.symbol ≠ .finish → Ended ts → Ended (k :: ts)

variable {symbol : Symbol} {k : Token} {ts : List Token} {offset : Nat}

-- What a text starts with: its first symbol, or the end if there is nothing more.
def Leads (symbol : Symbol) : List Char → Prop
  | [] => symbol = .finish
  | c :: cs => Unicode.isBlank c = false ∧ ∃ rest, scan c cs = .ok (symbol,rest)

-- The symbol of a token starts that many bytes into a text that is itself that many bytes into a source.
def Token.StandsIn (k : Token) (offset : Nat) (text : List Char) : Prop :=
  ∃ before after, text = before ++ after ∧ k.offset = offset + Text.byteLength before ∧ Leads k.symbol after

theorem Token.StandsIn.later (before : List Char) (stands : k.StandsIn (offset + Text.byteLength before) text) :
    k.StandsIn offset (before ++ text) := by
  obtain ⟨passed,after,same,place,leads⟩ := stands
  refine ⟨before ++ passed,after,?_,?_,leads⟩
  · rw [same,List.append_assoc]
  · rw [place,Text.byteLength_append,Nat.add_assoc]

theorem nameTail_split (seen : Bool) (cs : List Char) : (nameTail seen cs).1 ++ (nameTail seen cs).2 = cs := by
  induction cs generalizing seen with
  | nil => rfl
  | cons c cs ih =>
    unfold nameTail
    split
    · exact congrArg (c :: ·) (ih seen)
    · split
      · exact congrArg (c :: ·) (ih true)
      · rfl

theorem numberTail_split (seen : Bool) (cs : List Char) :
    (numberTail seen cs).1 ++ (numberTail seen cs).2 = cs := by
  induction cs generalizing seen with
  | nil => rfl
  | cons c cs ih =>
    unfold numberTail
    split
    · exact congrArg (c :: ·) (ih seen)
    · split
      · exact congrArg (c :: ·) (ih true)
      · rfl

theorem stringTail_suffix {quote : Char} {body : List Char} (closed : stringTail quote cs = some (body,rest)) :
    rest <:+ cs := by
  fun_induction stringTail quote cs generalizing body rest with
  | case1 => cases closed
  | case2 => cases closed; exact List.nil_suffix
  | case3 => cases closed
  | case4 _ ih =>
    obtain ⟨read,inner,same⟩ := Option.map_eq_some_iff.mp closed
    cases same
    exact ((ih inner).trans (List.suffix_cons _ _)).trans (List.suffix_cons _ _)
  | case5 => cases closed; exact List.suffix_cons _ _
  | case6 _ _ _ _ ih =>
    obtain ⟨read,inner,same⟩ := Option.map_eq_some_iff.mp closed
    cases same
    exact (ih inner).trans (List.suffix_cons _ _)

theorem scanNumber_reads (scanned : scanNumber cs = .ok (symbol,rest)) : symbol ≠ .finish ∧ rest <:+ cs := by
  unfold scanNumber at scanned
  dsimp only at scanned
  split at scanned
  · cases scanned
    exact ⟨by simp,_,numberTail_split false cs⟩
  · cases scanned

theorem scanWord_reads (scanned : scanWord c cs = .ok (symbol,rest)) : symbol ≠ .finish ∧ rest <:+ c :: cs := by
  unfold scanWord at scanned
  split at scanned
  · split at scanned
    · rename_i closed
      cases scanned
      exact ⟨by simp,(stringTail_suffix closed).trans (List.suffix_cons c cs)⟩
    · cases scanned
  · split at scanned
    · exact scanNumber_reads scanned
    · split at scanned
      · cases scanned
        exact ⟨by simp,List.IsSuffix.trans ⟨_,nameTail_split false cs⟩ (List.suffix_cons c cs)⟩
      · split at scanned
        · cases scanned
        · split at scanned <;> cases scanned

theorem pairSymbol_shown {d : Char} (pair : pairSymbol? c d = some symbol) : symbol ≠ .finish := by
  unfold pairSymbol? at pair
  split at pair <;> cases pair <;> decide

theorem signSymbol_shown (sign : signSymbol? c = some symbol) : symbol ≠ .finish := by
  unfold signSymbol? at sign
  split at sign <;> cases sign <;> decide

-- A symbol is read from the front of a text, and none of them is the end.
theorem scan_reads (scanned : scan c cs = .ok (symbol,rest)) : symbol ≠ .finish ∧ rest <:+ c :: cs := by
  unfold scan at scanned
  split at scanned
  · rename_i s pair
    cases scanned
    obtain ⟨d,_,pair⟩ := Option.bind_eq_some_iff.mp pair
    exact ⟨pairSymbol_shown pair,(List.tail_suffix cs).trans (List.suffix_cons c cs)⟩
  · split at scanned
    · exact scanNumber_reads scanned
    · split at scanned
      · rename_i sign
        cases scanned
        exact ⟨signSymbol_shown sign,List.suffix_cons c _⟩
      · exact scanWord_reads scanned

theorem tokensFrom_scan (inked : Unicode.isBlank c = false) (read : scan c cs = .ok (symbol,rest)) (offset : Nat) :
    tokensFrom offset (c :: cs) =
      (⟨symbol,offset⟩ :: ·) <$> tokensFrom (offset + (Text.byteLength (c :: cs) - Text.byteLength rest)) rest := by
  rw [tokensFrom,if_neg (by rw [inked]; decide)]
  split
  · rename_i failed
    cases failed.symm.trans read
  · rename_i other
    cases other.symm.trans read
    change (tokensFrom (offset + (Text.byteLength (c :: cs) - Text.byteLength rest)) rest >>= _) = _
    cases tokensFrom (offset + (Text.byteLength (c :: cs) - Text.byteLength rest)) rest <;> rfl

theorem tokensFrom_refused {problem : SyntaxProblem} (inked : Unicode.isBlank c = false)
    (read : scan c cs = .error problem) (offset : Nat) :
    tokensFrom offset (c :: cs) = .error (.badSyntax offset problem) := by
  rw [tokensFrom,if_neg (by rw [inked]; decide)]
  split
  · rename_i same
    cases same.symm.trans read
    rfl
  · rename_i other
    cases other.symm.trans read

-- By induction along the scanner, which counts the bytes of what it has passed.
theorem tokensFrom_stand (scanned : tokensFrom offset cs = .ok ts) :
    Ended ts ∧ ∀ k ∈ ts, k.StandsIn offset cs := by
  induction offset, cs using tokensFrom.induct generalizing ts with
  | case1 offset =>
    rw [tokensFrom] at scanned
    cases scanned
    exact ⟨.last _ rfl,List.forall_mem_singleton.mpr ⟨[],[],rfl,rfl,rfl⟩⟩
  | case2 offset c cs blank ih =>
    rw [tokensFrom,if_pos blank] at scanned
    obtain ⟨ended,stand⟩ := ih scanned
    exact ⟨ended,fun k member => (stand k member).later [c]⟩
  | case3 offset c cs inked problem read =>
    cases scanned.symm.trans (tokensFrom_refused (Bool.eq_false_iff.mpr inked) read offset)
  | case4 offset c cs inked symbol rest read width =>
    rename_i ih
    have visible := Bool.eq_false_iff.mpr inked
    obtain ⟨later,found,last⟩ := map_ok ((tokensFrom_scan visible read offset).symm.trans scanned)
    cases last
    obtain ⟨ended,stand⟩ := ih found
    obtain ⟨shown,before,split⟩ := scan_reads read
    have passed : width = Text.byteLength before := by
      change Text.byteLength (c :: cs) - Text.byteLength rest = _
      rw [← split,Text.byteLength_append,Nat.add_sub_cancel]
    refine ⟨.more _ shown ended,List.forall_mem_cons.mpr ⟨?_,fun k member => ?_⟩⟩
    · exact ⟨[],c :: cs,rfl,rfl,visible,rest,read⟩
    · rw [← split]
      exact (passed ▸ stand k member).later before

end Query
end TreeAudit
