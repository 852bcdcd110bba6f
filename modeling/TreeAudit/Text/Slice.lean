-- Parts of a text by byte positions. A position is the number of bytes before it, each character
-- counted by the length of its encoding; a position inside a character names no part.
namespace TreeAudit.Text

-- The characters of the first `n` bytes and the characters after them, if the `n` bytes end
-- between two characters.
def splitAtByte? : Nat → List Char → Option (List Char × List Char)
  | 0, cs => some ([], cs)
  | _ + 1, [] => none
  | n + 1, c :: cs =>
    if c.utf8Size ≤ n + 1 then
      (splitAtByte? (n + 1 - c.utf8Size) cs).map fun (before, after) => (c :: before, after)
    else none
termination_by _ cs => cs.length

def slice? (s : String) (start stop : Nat) : Option String :=
  if start ≤ stop then do
    let (_, after) ← splitAtByte? start s.toList
    let (part, _) ← splitAtByte? (stop - start) after
    some (String.ofList part)
  else none

def byteLength (cs : List Char) : Nat := cs.foldr (·.utf8Size + ·) 0

-- The characters that start before byte `n`.
def takeBytes : Nat → List Char → List Char
  | 0, _ => []
  | _ + 1, [] => []
  | n + 1, c :: cs => c :: takeBytes (n + 1 - c.utf8Size) cs
termination_by _ cs => cs.length

-- Every place where a non-empty `pattern` stands is filled with `replacement`, from the left and
-- without overlap.
def replaceIn (pattern replacement : List Char) : List Char → List Char
  | [] => []
  | c :: cs =>
    if !pattern.isEmpty && pattern.isPrefixOf (c :: cs) then
      replacement ++ replaceIn pattern replacement (cs.drop (pattern.length - 1))
    else c :: replaceIn pattern replacement cs
termination_by cs => cs.length
decreasing_by all_goals simp; try omega

def replaceAll (s pattern replacement : String) : String :=
  String.ofList (replaceIn pattern.toList replacement.toList s.toList)

end TreeAudit.Text
