import TreeAudit.CommandLine.Answer

-- The program: it looks at the paths that its arguments name and prints the answer. Only here is
-- anything read or written.
namespace TreeAudit.CommandLine

def accessError : IO.Error → AccessError
  | .noFileOrDirectory .. => .missing
  | .inappropriateType .. => .noDirectory
  | e => .other (toString e)

def readText (path : String) : IO (Except AccessError String) := do
  try
    let bytes ← IO.FS.readBinFile path
    match String.fromUTF8? bytes with
    | some text => return .ok text
    | none => return .error .noText
  catch e => return .error (accessError e)

-- What is below a place in a directory. Of what an answer never looks at, nothing is read.
partial def load (path : String) : IO FileTree := do
  let place ← IO.FS.realPath path
  if !(← place.isDir) then return .file (← readText path)
  let names := (← place.readDir).toList.map (·.fileName)
  let mut entries := []
  for name in names.mergeSort (· ≤ ·) do
    let below := PathName.join path name
    let isDirectory ← (← IO.FS.realPath below).isDir
    if if isDirectory then !Answer.skipsDirectory name else Answer.isSource .builtIn name then
      entries := (name, ← load below) :: entries
  return .directory entries.reverse

def lookAt (path : String) : IO (String × Except AccessError FileTree) := do
  try
    return (path, .ok (← load path))
  catch e => return (path, .error (accessError e))

end TreeAudit.CommandLine

open TreeAudit.CommandLine in
-- Answers the arguments; the answer's code is the exit code.
def main (words : List String) : IO UInt32 := do
  let seen ← (pathsOf words).mapM lookAt
  let output ← IO.getStdout
  let colour := (← output.isTty) && (← IO.getEnv "NO_COLOR").isNone
  let answer := Answer.ofWords (fun path => (seen.lookup path).getD (.error .missing)) colour words
  output.putStr answer.output
  output.flush
  IO.eprint answer.errors
  return UInt32.ofNat answer.code
