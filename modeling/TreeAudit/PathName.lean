-- Names of files as texts with slashes. A name that ends in a slash names the directory before it, and
-- single points between slashes are not counted as parts.
namespace TreeAudit.PathName

def segments : List Char → List (List Char)
  | [] => [[]]
  | c :: cs =>
    match segments cs with
    | [] => [[c]]
    | s :: ss => if c = '/' then [] :: s :: ss else (c :: s) :: ss

def fileName? (path : String) : Option String :=
  let parts := (segments path.toList).filter fun s => s ≠ [] && s ≠ ['.']
  match parts.getLast? with
  | some s => if s = ['.', '.'] then none else some (String.ofList s)
  | none => none

-- What stands after the last point of the file name, unless that point is the first character.
def extension? (path : String) : Option String := do
  let name ← fileName? path
  let reversed := name.toList.reverse
  let after := reversed.takeWhile (· ≠ '.')
  match reversed.dropWhile (· ≠ '.') with
  | _ :: _ :: _ => some (String.ofList after.reverse)
  | _ => none

def join (directory name : String) : String :=
  if directory.isEmpty then name
  else if directory.endsWith "/" then directory ++ name
  else directory ++ "/" ++ name

end TreeAudit.PathName
