import TreeAudit.Yaml.Node
import TreeAudit.Yaml.Schema

-- What the nodes of a document stand for: values, or texts and lists where these are asked for. Aliases
-- are followed, at most a hundred times the size of the document in all, and collections may be nested
-- 128 deep, so that a document whose aliases lead back into themselves comes to an end.
namespace TreeAudit.Yaml

-- Reads a document while counting the aliases followed; nothing if the content does not fit.
abbrev Reads (α : Type) := StateT Nat Option α

def greatestDepth : Nat := 128

namespace Document

def aliasLimit (d : Document) : Nat := 100 * ((d.root.map Node.size).getD 1)

-- The anchored node with a number; of several the last counts.
def target? (d : Document) (number : Nat) : Option Node := (d.anchored.reverse.lookup number)

def follow (d : Document) : Node → Reads Node
  | .alias number => do
    let count ← get
    set (count + 1)
    if d.aliasLimit < count + 1 then failure
    else
      match d.target? number with
      | some n => pure n
      | none => failure
  | n => pure n

-- Drops an exclamation mark in front, unless that is all there is.
def dropMark : List Char → List Char
  | '!' :: c :: cs => c :: cs
  | cs => cs

-- A tag that is written with an exclamation mark and is not one of the usual types. A second mark
-- makes no difference.
def ownTag? : Option String → Option String
  | none => none
  | some tag =>
    match tag.toList with
    | '!' :: rest => some (String.ofList (dropMark (dropMark ('!' :: rest))))
    | _ => none

def addEntry (entries : List (Value × Value)) (k v : Value) : Option (List (Value × Value)) :=
  if entries.any (·.1.same k) then none else some (entries ++ [(k, v)])

def tagValue (tag : Option String) (v : Value) : Value :=
  match tag with
  | none => v
  | some t => .tagged t v

-- The value of a node with at most `depth` collections inside one another. Under a tag of its own
-- the tags of a node and of its keys no longer count.
def valueOf (d : Document) : Nat → Bool → Node → Reads Value
  | depth, underTag, n => do
    let n ← d.follow n
    match depth, n with
    | _, .alias _ => failure
    | _, .scalar tag s =>
      if underTag then (if s.plain then plainValue s.text else some (.string s.text) : Option Value)
      else
        match ownTag? tag with
        | some t => do
          let v ← (if s.plain then plainValue s.text else some (.string s.text) : Option Value)
          pure (.tagged t v)
        | none => scalarValue tag s
    | 0, _ => failure
    | depth + 1, .sequence tag items => do
      let vs ← items.mapM (valueOf d depth false)
      pure (tagValue (if underTag then none else ownTag? tag) (.sequence vs))
    | depth + 1, .mapping tag entries => do
      let own := if underTag then none else ownTag? tag
      let entries ← entries.foldlM (fun done (k, v) => do
        let k ← valueOf d depth (underTag || own.isSome) k
        let v ← valueOf d depth false v
        addEntry done k v) []
      pure (tagValue own (.mapping entries))

def isLeftOut : Node → Bool
  | .scalar _ s => s.plain && s.text.isEmpty
  | _ => false

def textOf (d : Document) (n : Node) : Reads String := do
  match ← d.follow n with
  | .scalar _ s => pure s.text
  | _ => failure

def textOrNone (d : Document) (n : Node) : Reads (Option String) := do
  match ← d.follow n with
  | .scalar tag s =>
    if !s.plain then pure (some s.text)
    else if tag = some (usualTag "null") then (if isNull s.text then pure none else failure)
    else if tag.isSome then pure (if s.text.isEmpty then none else some s.text)
    else pure (if s.text.isEmpty || isNull s.text then none else some s.text)
  | _ => failure

-- The items of a sequence; a node that is left out has none.
def itemsOf (d : Document) (n : Node) : Reads (List Node) := do
  match ← d.follow n with
  | .sequence _ items => pure items
  | n => if isLeftOut n then pure [] else failure

-- The entries of a mapping; a node that is left out has none.
def entriesOf (d : Document) (n : Node) : Reads (List (Node × Node)) := do
  match ← d.follow n with
  | .mapping _ entries => pure entries
  | n => if isLeftOut n then pure [] else failure

end Document

end TreeAudit.Yaml
