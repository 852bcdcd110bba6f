import TreeAudit.PathName

-- Files and directories. A file holds its text, or the reason why it has none; a directory holds its
-- entries in the order of their names. Paths lead from a directory down to its entries and, by two
-- points, up again.
namespace TreeAudit

-- Why something cannot be reached or read.
inductive AccessError
  | missing
  | noDirectory
  | noFile
  | nameTooLong
  | noText
  | other (reason : String)
deriving Repr, DecidableEq

def AccessError.message : AccessError → String
  | missing => "No such file or directory (os error 2)"
  | noDirectory => "Not a directory (os error 20)"
  | noFile => "Is a directory (os error 21)"
  | nameTooLong => "File name too long (os error 36)"
  | noText => "stream did not contain valid UTF-8"
  | other reason => reason

-- A file with its text or the reason why it cannot be read, or a directory with its entries.
inductive FileTree
  | file (text : Except AccessError String)
  | directory (entries : List (String × FileTree))
deriving Repr

namespace FileTree

def isDirectory : FileTree → Bool
  | file _ => false
  | directory _ => true

def read : FileTree → Except AccessError String
  | file text => text
  | directory _ => .error .noFile

-- Puts an entry at its place by name; one of the same name is replaced.
def insertEntry (name : String) (t : FileTree) : List (String × FileTree) → List (String × FileTree)
  | [] => [(name, t)]
  | (n, u) :: rest =>
    if name = n then (name, t) :: rest
    else if name < n then (name, t) :: (n, u) :: rest
    else (n, u) :: insertEntry name t rest

-- The entries of a directory; a file counts as one without entries.
def entries : FileTree → List (String × FileTree)
  | file _ => []
  | directory es => es

def insert : FileTree → List String → FileTree → FileTree
  | _, [], added => added
  | t, name :: path, added =>
    let below := (t.entries.lookup name).getD (directory [])
    directory (insertEntry name (below.insert path added) t.entries)

def longestName : Nat := 255

-- Follows the parts of a path from a place whose directories are given, the innermost first. Empty
-- parts and single points stay in a directory.
def follow (above : List FileTree) (here : FileTree) : List String → Except AccessError FileTree
  | [] => .ok here
  | part :: parts =>
    match here with
    | file _ => .error .noDirectory
    | directory es =>
      if part.isEmpty || part = "." then follow above here parts
      else if part = ".." then
        match above with
        | [] => .error .missing
        | up :: above => follow above up parts
      else if part.utf8ByteSize > longestName then .error .nameTooLong
      else
        match es.lookup part with
        | some next => follow (here :: above) next parts
        | none => .error .missing

def find (root : FileTree) (path : String) : Except AccessError FileTree :=
  if path.startsWith "/" then .error .missing
  else follow [] root ((PathName.segments path.toList).map String.ofList)

mutual

-- All files at and below a place, directory after directory in the order of the names, each with its
-- path from `base`. Directories below the place whose name is to be skipped are left out.
def files (skips : String → Bool) (base : String) :
    FileTree → List (String × Except AccessError String)
  | file text => [(base, text)]
  | directory es => entryFiles skips base es

def entryFiles (skips : String → Bool) (base : String) :
    List (String × FileTree) → List (String × Except AccessError String)
  | [] => []
  | (name, t) :: rest =>
    (if t.isDirectory && skips name then [] else files skips (PathName.join base name) t) ++
      entryFiles skips base rest

end

end FileTree

end TreeAudit
