import TreeAudit.Atom
import TreeAudit.Tree.Basic

-- Attributes of nodes: named values derived from the tree on demand. A language gives its own
-- attributes by the kind of the node; every node has in addition its place in the source and, without
-- children, its text.
namespace TreeAudit

structure Attribute where
  name : String
  value : Atom
deriving Repr, DecidableEq

namespace Attribute

def text (name s : String) : Attribute := ⟨name, .text s⟩
def count (name : String) (n : Nat) : Attribute := ⟨name, .number (Float.ofNat n)⟩
def truth (name : String) (b : Bool) : Attribute := ⟨name, .truth b⟩

def generic (t : Tree) (id : NodeId) : List Attribute :=
  let s := t.span id
  [count "BeginLine" s.startLine, count "BeginColumn" s.startColumn,
    count "EndLine" s.endLine, count "EndColumn" s.endColumn] ++
  if t.isLeaf id then [text "Image" (t.text id)] else []

-- All attributes of a node, those of the language first. A generic attribute whose name the
-- language uses is left out.
def all (provider : Tree → NodeId → List Attribute) (t : Tree) (id : NodeId) : List Attribute :=
  let own := provider t id
  own ++ (generic t id).filter fun g => !own.any (·.name = g.name)

def find? (provider : Tree → NodeId → List Attribute) (t : Tree) (id : NodeId) (name : String) :
    Option Atom :=
  (((provider t id).find? (·.name = name)).or ((generic t id).find? (·.name = name))).map (·.value)

end Attribute

end TreeAudit
