import TreeAudit.Proofs.Text.Escaping

-- Escapes undone. A backslash starts every escape and stands in none but its own, so that a text is read back from
-- its escaped form character by character; escaped texts are equal only if the texts are.
namespace TreeAudit.Text
variable {cs : List Char} {n : Nat}

-- The character that an escape names by a letter.
def named : Char → Char
  | 'r' => '\r'
  | 'n' => '\n'
  | 't' => '\t'
  | c => c

def digitValue (c : Char) : Nat := if c.isDigit then c.toNat - '0'.toNat else c.toNat - 'a'.toNat + 10

-- Reads escaped text, and within a numbered escape the digits that are left of it.
def unescapeFrom : Option Nat → List Char → List Char
  | _, [] => []
  | some n, '\x7d' :: cs => Char.ofNat n :: unescapeFrom none cs
  | some n, d :: cs => unescapeFrom (some (n * 16 + digitValue d)) cs
  | none, '\\' :: 'u' :: '\x7b' :: cs => unescapeFrom (some 0) cs
  | none, '\\' :: c :: cs => named c :: unescapeFrom none cs
  | none, c :: cs => c :: unescapeFrom none cs

def unescape (s : String) : String := String.ofList (unescapeFrom none s.toList)

theorem digitChar_value : ∀ d < 16, digitValue (Nat.digitChar d) = d := by decide

theorem digitChar_open : ∀ d < 16, Nat.digitChar d ≠ '\x7d' := by decide

theorem unescapeFrom_digit {d : Char} (open_ : d ≠ '\x7d') :
    unescapeFrom (some n) (d :: cs) = unescapeFrom (some (n * 16 + digitValue d)) cs := by
  rw [unescapeFrom]
  simpa using open_

theorem hex_eq (n : Nat) :
    hex n = if n < 16 then [Nat.digitChar n] else hex (n / 16) ++ [Nat.digitChar (n % 16)] :=
  Nat.toDigits_eq_if (by decide)

-- The digits of a number are read in their order, the highest first.
theorem unescapeFrom_hex (n : Nat) (cs : List Char) :
    unescapeFrom (some 0) (hex n ++ cs) = unescapeFrom (some n) cs := by
  induction n using Nat.strongRecOn generalizing cs with
  | ind n ih =>
    rw [hex_eq]
    split
    · rename_i small
      rw [List.singleton_append,unescapeFrom_digit (digitChar_open n small),digitChar_value n small,Nat.zero_mul,
        Nat.zero_add]
    · rename_i large
      have last : n % 16 < 16 := Nat.mod_lt n (by decide)
      have parts : n / 16 * 16 + n % 16 = n := by omega
      rw [List.append_assoc,ih (n / 16) (by omega),List.singleton_append,
        unescapeFrom_digit (digitChar_open _ last),digitChar_value _ last,parts]

theorem unescapeFrom_escapeChar (c : Char) (cs : List Char) :
    unescapeFrom none (escapeChar c ++ cs) = c :: unescapeFrom none cs := by
  by_cases lettered : c = '\r' ∨ c = '\n' ∨ c = '\t' ∨ c = '\\'
  · rcases lettered with rfl | rfl | rfl | rfl <;> rfl
  · simp only [not_or] at lettered
    obtain ⟨return_,newline,tab,backslash⟩ := lettered
    rw [escapeChar,if_neg return_,if_neg newline,if_neg tab,if_neg backslash]
    split
    · change unescapeFrom (some 0) (hex c.toNat ++ ['\x7d'] ++ cs) = _
      rw [List.append_assoc,unescapeFrom_hex]
      change Char.ofNat c.toNat :: unescapeFrom none cs = _
      rw [Char.ofNat_toNat]
    · rw [List.singleton_append,unescapeFrom]
      · exact fun _ same => absurd same backslash
      · exact fun _ _ same => absurd same backslash

theorem unescapeFrom_flatMap (cs : List Char) : unescapeFrom none (cs.flatMap escapeChar) = cs := by
  induction cs with
  | nil => rfl
  | cons c cs ih => rw [List.flatMap_cons,unescapeFrom_escapeChar,ih]

theorem unescape_escapeControl (s : String) : unescape (escapeControl s) = s := by
  rw [unescape,escapeControl,String.toList_ofList,unescapeFrom_flatMap,String.ofList_toList]

theorem escapeControl_injective : Function.Injective escapeControl := by
  intro s t same
  rw [← unescape_escapeControl s,same,unescape_escapeControl]

theorem escapeControl_append (s t : String) : escapeControl (s ++ t) = escapeControl s ++ escapeControl t := by
  rw [escapeControl,String.toList_append,List.flatMap_append,String.ofList_append]
  rfl

end TreeAudit.Text
