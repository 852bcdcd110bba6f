import TreeAudit.Decimal.Style
import TreeAudit.Text.Escape

-- YAML values: scalars, sequences, mappings in the order in which they are written, and values with a
-- tag of their own.
namespace TreeAudit.Yaml

inductive Number
  | integer (n : Int)
  | float (x : Float)
deriving Repr, DecidableEq

namespace Number

def toFloat : Number → Float
  | integer n => if n < 0 then -Float.ofNat n.natAbs else Float.ofNat n.natAbs
  | float x => x

-- Equality of keys: all values that are not a number are one, and zeros do not differ.
def same : Number → Number → Bool
  | integer m, integer n => m = n
  | float x, float y => x == y || (x.isNaN && y.isNaN)
  | _, _ => false

def text : Number → String
  | integer n => toString n
  | float x => Decimal.scientific.text x

end Number

inductive Value
  | null
  | boolean (b : Bool)
  | number (n : Number)
  | string (s : String)
  | sequence (items : List Value)
  | mapping (entries : List (Value × Value))
  | tagged (tag : String) (v : Value)
deriving Repr, Inhabited

namespace Value

mutual

-- Equality of keys. The order of the entries of a mapping does not count.
def same : Value → Value → Bool
  | null, null => true
  | boolean a, boolean b => a = b
  | number m, number n => m.same n
  | string a, string b => a = b
  | sequence as, sequence bs => sameItems as bs
  | mapping as, mapping bs => as.length = bs.length && sameEntries as bs
  | tagged s v, tagged t w => s = t && same v w
  | _, _ => false

def sameItems : List Value → List Value → Bool
  | [], [] => true
  | a :: as, b :: bs => same a b && sameItems as bs
  | _, _ => false

def sameEntries : List (Value × Value) → List (Value × Value) → Bool
  | [], _ => true
  | (k, v) :: as, bs => bs.any (fun (k', v') => same k k' && same v v') && sameEntries as bs

end

-- A value without its tags.
def untag : Value → Value
  | tagged _ v => v.untag
  | v => v

def get? (v : Value) (key : String) : Option Value :=
  match v.untag with
  | mapping entries =>
    (entries.find? fun
      | (string s, _) => s = key
      | _ => false).map (·.2)
  | _ => none

def text? (v : Value) : Option String :=
  match v.untag with
  | string s => some s
  | _ => none

-- A mapping without the entry under a text, and what that entry was.
def take : Value → String → Option Value × Value
  | mapping entries, key =>
    let isKey : Value × Value → Bool
      | (string s, _) => s = key
      | _ => false
    ((entries.find? isKey).map (·.2), mapping (entries.filter fun e => !isKey e))
  | tagged tag v, key =>
    let (found, v) := v.take key
    (found, tagged tag v)
  | v, _ => (none, v)

-- A double with a point even if it is whole.
def pointed (x : Float) : String :=
  let s := Decimal.positional.text x
  if x.isFinite && !s.toList.contains '.' then s ++ ".0" else s

def kindText : Value → String
  | null => "unit value"
  | boolean b => s!"boolean `{b}`"
  | number (.integer n) => s!"integer `{n}`"
  | number (.float x) => s!"floating point `{pointed x}`"
  | string s => s!"string {Text.quoted s}"
  | sequence _ => "sequence"
  | mapping _ => "map"
  | tagged _ _ => "enum"

mutual

def describe : Value → String
  | null => "Null"
  | boolean b => s!"Bool({b})"
  | number n => s!"Number({n.text})"
  | string s => s!"String({Text.quoted s})"
  | sequence items => "Sequence [" ++ ", ".intercalate (describeItems items) ++ "]"
  | mapping entries =>
    "Mapping \x7b" ++ ", ".intercalate (describeEntries entries) ++ "\x7d"
  | tagged tag v =>
    "TaggedValue \x7b tag: !" ++ tag ++ ", value: " ++ describe v ++ " \x7d"

def describeItems : List Value → List String
  | [] => []
  | v :: vs => describe v :: describeItems vs

-- Keys that are texts, numbers or truth values stand without their constructor.
def describeEntries : List (Value × Value) → List String
  | [] => []
  | (k, v) :: es =>
    let key := match k with
      | boolean b => toString b
      | number n => n.text
      | string s => Text.quoted s
      | k => describe k
    (key ++ ": " ++ describe v) :: describeEntries es

end

end Value

end TreeAudit.Yaml
