import TreeAudit.Yaml.Token

-- The nodes of a YAML document: scalars, sequences, mappings and aliases of anchored nodes. Reading
-- follows the grammar on the tokens; where the grammar allows a node to be left out there is an empty
-- plain scalar. An alias stands for a number, under which the document keeps the anchored node.
namespace TreeAudit.Yaml

inductive Node
  | scalar (tag : Option String) (s : Scalar)
  | sequence (tag : Option String) (items : List Node)
  | mapping (tag : Option String) (entries : List (Node × Node))
  | alias (target : Nat)
deriving Repr, Inhabited

def Node.empty : Node := .scalar none ⟨"", true⟩

mutual

-- The number of events that a node is made of: a collection has one at its start and one at its
-- end.
def Node.size : Node → Nat
  | .scalar _ _ => 1
  | .sequence _ items => sizeItems items + 2
  | .mapping _ entries => sizeEntries entries + 2
  | .alias _ => 1

def Node.sizeItems : List Node → Nat
  | [] => 0
  | n :: ns => n.size + sizeItems ns

def Node.sizeEntries : List (Node × Node) → Nat
  | [] => 0
  | (k, v) :: es => k.size + v.size + sizeEntries es

end

abbrev Anchored := List (Nat × Node)

-- What reading nodes knows: the tokens ahead, what handles of tags stand for, the numbers of the
-- anchor names so far, and the anchored nodes in the order of their starts.
structure Reader where
  tokens : List Token
  handles : List (String × String)
  names : List (String × Nat) := []
  anchored : Array (Nat × Node) := #[]

namespace Reader

def peek (r : Reader) : Option Token := r.tokens.head?

def skip (r : Reader) : Reader := { r with tokens := r.tokens.drop 1 }

def sees (r : Reader) (ts : List Token) : Bool := r.peek.any (ts.contains ·)

def resolve (r : Reader) (t : WrittenTag) : Option String :=
  if t.handle.isEmpty then some t.suffix
  else (r.handles.lookup t.handle).map (· ++ t.suffix)

-- Reads an anchor and a tag, in either order; both may be missing.
def properties (r : Reader) : Option (Option String × Option String × Reader) :=
  match r.tokens with
  | .anchor a :: .tag t :: rest => do
    let tag ← r.resolve t
    some (some a, some tag, { r with tokens := rest })
  | .tag t :: .anchor a :: rest => do
    let tag ← r.resolve t
    some (some a, some tag, { r with tokens := rest })
  | .anchor a :: rest => some (some a, none, { r with tokens := rest })
  | .tag t :: rest => do
    let tag ← r.resolve t
    some (none, some tag, { r with tokens := rest })
  | _ => some (none, none, r)

-- Gives an anchor name its number, which is how many names there were. The place of the node is
-- kept free until the node has been read.
def declare (r : Reader) (anchor : Option String) : Option (Nat × Nat) × Reader :=
  match anchor with
  | none => (none, r)
  | some name =>
    let number := r.names.length
    let names := (name, number) :: r.names.filter (·.1 ≠ name)
    (some (r.anchored.size, number), { r with names, anchored := r.anchored.push (number, .empty) })

def keep (r : Reader) (place : Option (Nat × Nat)) (n : Node) : Node × Reader :=
  match place with
  | some (i, number) => (n, { r with anchored := r.anchored.setIfInBounds i (number, n) })
  | none => (n, r)

-- A scalar without its tag, if that is the sign for no tag in particular.
def scalarNode (tag : Option String) (s : Scalar) : Node :=
  .scalar (if tag = some "!" then none else tag) s

mutual

-- Reads a node. Block collections are read only where `block` allows them, and a sequence that is
-- not further in only where `indentless` does.
def node (block indentless : Bool) : Nat → Reader → Option (Node × Reader)
  | 0, _ => none
  | fuel + 1, r =>
    match r.peek with
    | some (.alias name) => (r.names.lookup name).map fun target => (.alias target, r.skip)
    | _ => do
      let (anchor, tag, r) ← r.properties
      let (place, r) := r.declare anchor
      let ofItems (found : Option (List Node × Reader)) : Option (Node × Reader) :=
        found.map fun (items, r) => r.keep place (.sequence tag items)
      let ofEntries (found : Option (List (Node × Node) × Reader)) : Option (Node × Reader) :=
        found.map fun (entries, r) => r.keep place (.mapping tag entries)
      match r.peek with
      | some (.scalar s) => some (r.skip.keep place (scalarNode tag s))
      | some .flowSequenceStart => ofItems (flowItems true fuel r.skip)
      | some .flowMappingStart => ofEntries (flowEntries true fuel r.skip)
      | t =>
        if indentless && t = some .blockEntry then ofItems (indentlessItems fuel r)
        else if block && t = some .blockSequenceStart then ofItems (blockItems fuel r.skip)
        else if block && t = some .blockMappingStart then ofEntries (blockEntries fuel r.skip)
        else if anchor.isSome || tag.isSome then some (r.keep place (.scalar tag ⟨"", true⟩))
        else none

-- Reads a node unless one of some tokens follows, before which it is left out.
def nodeBefore (ends : List Token) (block indentless : Bool) : Nat → Reader → Option (Node × Reader)
  | 0, _ => none
  | fuel + 1, r =>
    if r.sees ends then some (.empty, r) else node block indentless fuel r

def blockItems : Nat → Reader → Option (List Node × Reader)
  | 0, _ => none
  | fuel + 1, r =>
    match r.peek with
    | some .blockEntry => do
      let (n, r) ← nodeBefore [.blockEntry, .blockEnd] true false fuel r.skip
      let (ns, r) ← blockItems fuel r
      some (n :: ns, r)
    | some .blockEnd => some ([], r.skip)
    | _ => none

def indentlessItems : Nat → Reader → Option (List Node × Reader)
  | 0, _ => none
  | fuel + 1, r =>
    match r.peek with
    | some .blockEntry => do
      let (n, r) ← nodeBefore [.blockEntry, .key, .value, .blockEnd] true false fuel r.skip
      let (ns, r) ← indentlessItems fuel r
      some (n :: ns, r)
    | _ => some ([], r)

def blockEntries : Nat → Reader → Option (List (Node × Node) × Reader)
  | 0, _ => none
  | fuel + 1, r =>
    let ends := [.key, .value, .blockEnd]
    let entry (k : Node) (r : Reader) : Option (List (Node × Node) × Reader) := do
      let (v, r) ←
        if r.sees [.value] then nodeBefore ends true true fuel r.skip else some (.empty, r)
      let (es, r) ← blockEntries fuel r
      some ((k, v) :: es, r)
    match r.peek with
    | some .key => do
      let (k, r) ← nodeBefore ends true true fuel r.skip
      entry k r
    | some .blockEnd => some ([], r.skip)
    | _ => none

-- Reads the entries of a sequence in brackets, after the first with a comma before each. A key in
-- it starts a mapping of one entry; a key that is left out takes the sign of the value with it.
def flowItems (first : Bool) : Nat → Reader → Option (List Node × Reader)
  | 0, _ => none
  | fuel + 1, r =>
    if r.sees [.flowSequenceEnd] then some ([], r.skip)
    else if !first && !r.sees [.flowEntry] then none
    else
      let r := if first then r else r.skip
      match r.peek with
      | some .key => do
        let r := r.skip
        let (k, r) ←
          if r.sees [.value, .flowEntry, .flowSequenceEnd] then some (.empty, r.skip)
          else node false false fuel r
        let (v, r) ←
          if r.sees [.value] then nodeBefore [.flowEntry, .flowSequenceEnd] false false fuel r.skip
          else some (.empty, r)
        let (ns, r) ← flowItems false fuel r
        some (.mapping none [(k, v)] :: ns, r)
      | some .flowSequenceEnd => some ([], r.skip)
      | _ => do
        let (n, r) ← node false false fuel r
        let (ns, r) ← flowItems false fuel r
        some (n :: ns, r)

-- Reads the entries of a mapping in braces, after the first with a comma before each.
def flowEntries (first : Bool) : Nat → Reader → Option (List (Node × Node) × Reader)
  | 0, _ => none
  | fuel + 1, r =>
    if r.sees [.flowMappingEnd] then some ([], r.skip)
    else if !first && !r.sees [.flowEntry] then none
    else
      let r := if first then r else r.skip
      let ends := [.flowEntry, .flowMappingEnd]
      match r.peek with
      | some .key => do
        let (k, r) ← nodeBefore (.value :: ends) false false fuel r.skip
        let (v, r) ←
          if r.sees [.value] then nodeBefore ends false false fuel r.skip else some (.empty, r)
        let (es, r) ← flowEntries false fuel r
        some ((k, v) :: es, r)
      | some .flowMappingEnd => some ([], r.skip)
      | _ => do
        let (k, r) ← node false false fuel r
        let (es, r) ← flowEntries false fuel r
        some ((k, .empty) :: es, r)

end

-- Takes the directives before a document into what handles stand for. A version may be given once
-- and has to be 1.1 or 1.2; no handle may be given twice.
def directives (seenVersion : Bool) (given : List (String × String)) :
    List Token → Option (List (String × String) × List Token)
  | .directive (.version major minor) :: rest =>
    if seenVersion || major ≠ 1 || (minor ≠ 1 && minor ≠ 2) then none
    else directives true given rest
  | .directive (.handle handle tagStart) :: rest =>
    if (given.lookup handle).isSome then none
    else directives seenVersion ((handle, tagStart) :: given) rest
  | rest => some (given ++ [("!", "!"), ("!!", "tag:yaml.org,2002:")], rest)

end Reader

-- A document with its anchored nodes. A text without any has no root.
structure Document where
  root : Option Node
  anchored : List (Nat × Node)
deriving Repr

namespace Document

-- Whether nothing but ends of documents is left.
def onlyEnds (ts : List Token) : Bool := ts.all (· = .documentEnd)

-- The only document of a text.
def ofTokens? (ts : List Token) : Option Document :=
  if ts.isEmpty then some ⟨none, []⟩
  else do
    let (handles, rest) ← Reader.directives false [] ts
    let explicit := rest.head? = some .documentStart
    if !explicit && rest.length < ts.length then none
    else
      let r : Reader := { tokens := if explicit then rest.drop 1 else rest, handles }
      let (n, r) ←
        if explicit && (r.tokens.isEmpty || r.sees [.documentStart, .documentEnd]) then some (.empty, r)
        else Reader.node true false (8 * (ts.length + 1)) r
      if onlyEnds r.tokens then some ⟨some n, r.anchored.toList⟩ else none

-- The only document in a text, unless the text is malformed.
def ofText? (text : String) : Option Document := (tokens? text).bind ofTokens?

end Document

end TreeAudit.Yaml
