-- Texts in columns: shorter texts are filled up with blanks, longer ones stay as they are.
namespace TreeAudit.Text

def padRight (width : Nat) (s : String) : String :=
  s ++ String.ofList (List.replicate (width - s.length) ' ')

theorem le_length_padRight (width : Nat) (s : String) : width ≤ (padRight width s).length := by
  simp [padRight]; omega

end TreeAudit.Text
