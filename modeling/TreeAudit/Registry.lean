import TreeAudit.Language

-- The languages that a run knows, in the order in which they were registered. No two have the same id,
-- and no two extensions are the same up to the case of ASCII letters, so that a file name belongs to at
-- most one language.
namespace TreeAudit

-- The languages, as registered. `Registry.ofLanguages` lets only lists without conflicts through.
structure Registry where
  languages : List Language

-- Why a list of languages cannot be registered.
inductive RegistryConflict
  | language (id : String)
  | fileExtension (extension first second : String)
deriving Repr, DecidableEq

def RegistryConflict.message : RegistryConflict → String
  | .language id => s!"language '{id}' registered twice"
  | .fileExtension extension first second =>
    s!"extension '{extension}' claimed by both '{first}' and '{second}'"

namespace Registry

-- Languages by a key under which each is found.
abbrev Table := List (String × Language)

structure Tables where
  byId : Table
  byExtension : Table

def Tables.empty : Tables := ⟨[], []⟩

-- Enters a language under extensions in lower case, unless one of them is taken.
def claim (l : Language) (table : Table) : List String → Except RegistryConflict Table
  | [] => .ok table
  | e :: es =>
    let e := Text.lowerAscii e
    match table.lookup e with
    | some first => .error (.fileExtension e first.id l.id)
    | none => claim l ((e, l) :: table) es

-- Enters a language under its id and then under its extensions.
def Tables.enter (t : Tables) (l : Language) : Except RegistryConflict Tables :=
  match t.byId.lookup l.id with
  | some _ => .error (.language l.id)
  | none => do
    let byExtension ← claim l t.byExtension l.extensions
    pure ⟨(l.id, l) :: t.byId, byExtension⟩

-- The tables with all languages entered in order; the first conflict met is reported.
def Tables.ofLanguages (languages : List Language) : Except RegistryConflict Tables :=
  languages.foldlM Tables.enter .empty

def ofLanguages (languages : List Language) : Except RegistryConflict Registry := do
  let _ ← Tables.ofLanguages languages
  pure ⟨languages⟩

-- The tables that registration filled. Languages in conflict, which it does not let through, are not
-- found by any key.
def tables (r : Registry) : Tables :=
  match Tables.ofLanguages r.languages with
  | .ok t => t
  | .error _ => .empty

def lookup? (r : Registry) (id : String) : Option Language := r.tables.byId.lookup id

-- The language of the files with an extension, which is given without its point.
def forExtension? (r : Registry) (extension : String) : Option Language :=
  r.tables.byExtension.lookup (Text.lowerAscii extension)

def languageIds (r : Registry) : List String := r.languages.map (·.id)

end Registry

end TreeAudit
