-- Texts up to the case of ASCII letters. Two texts are the same up to case exactly when their lowered
-- forms are equal.
namespace TreeAudit.Text

def lowerAscii (s : String) : String := String.ofList (s.toList.map Char.toLower)

def equalIgnoringCase (a b : String) : Bool := a.toList.map Char.toLower = b.toList.map Char.toLower

theorem equalIgnoringCase_iff (a b : String) :
    equalIgnoringCase a b = true ↔ lowerAscii a = lowerAscii b := by
  simp [equalIgnoringCase, lowerAscii, String.ofList_inj]

end TreeAudit.Text
