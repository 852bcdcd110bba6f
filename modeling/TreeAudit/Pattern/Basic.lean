import TreeAudit.Pattern.NamedSet

-- Patterns for texts and when they match. A pattern takes a set of positions in a text to the set of
-- positions at which a match from one of them can end; alternatives unite, sequences compose, and
-- repetition is iterated until nothing new is reached.
namespace TreeAudit

namespace Pattern

inductive Boundary
  | textStart
  | textEnd
  | lineStart
  | lineEnd
  | crlfLineStart
  | crlfLineEnd
  | word (unicode : Bool)
  | notWord (unicode : Bool)
  | wordStart (unicode : Bool)
  | wordEnd (unicode : Bool)
  | wordStartHalf (unicode : Bool)
  | wordEndHalf (unicode : Bool)
deriving Repr, DecidableEq

end Pattern

open Pattern in
-- A pattern. A repetition without an upper bound has `none` for it.
inductive Pattern
  | nothing
  | oneOf (set : CharSet)
  | boundary (b : Boundary)
  | seq (p q : Pattern)
  | alt (p q : Pattern)
  | times (p : Pattern) (least : Nat) (most : Option Nat)
deriving Repr

namespace Pattern

def isWordPart (unicode : Bool) (c : Char) : Bool :=
  if unicode then CharSet.wordParts.holds c.toNat else CharSet.asciiWordParts.holds c.toNat

def Boundary.holdsAt (b : Boundary) (text : Array Char) (i : Nat) : Bool :=
  let before := if i = 0 then none else text[i - 1]?
  let after := text[i]?
  let wordBefore (u : Bool) := before.any (isWordPart u)
  let wordAfter (u : Bool) := after.any (isWordPart u)
  match b with
  | .textStart => i = 0
  | .textEnd => after.isNone
  | .lineStart => before.all (· = '\n')
  | .lineEnd => after.all (· = '\n')
  | .crlfLineStart =>
    before.isNone || before = some '\n' || (before = some '\r' && after ≠ some '\n')
  | .crlfLineEnd =>
    after.isNone || after = some '\r' || (after = some '\n' && before ≠ some '\r')
  | .word u => wordBefore u != wordAfter u
  | .notWord u => wordBefore u == wordAfter u
  | .wordStart u => !wordBefore u && wordAfter u
  | .wordEnd u => wordBefore u && !wordAfter u
  | .wordStartHalf u => !wordBefore u
  | .wordEndHalf u => !wordAfter u

def unite : List Nat → List Nat → List Nat
  | [], bs => bs
  | as, [] => as
  | a :: as, b :: bs =>
    if a < b then a :: unite as (b :: bs)
    else if b < a then b :: unite (a :: as) bs
    else a :: unite as bs
termination_by as bs => as.length + bs.length

def iterate (f : List Nat → List Nat) : Nat → List Nat → List Nat
  | 0, s => s
  | n + 1, s => if s.isEmpty then s else iterate f n (f s)

-- All that `f` reaches from `fresh` in at most `n` steps, together with what was `reached`
-- before.
def closure (f : List Nat → List Nat) : Nat → List Nat → List Nat → List Nat
  | 0, reached, _ => reached
  | n + 1, reached, fresh =>
    let new := (f fresh).filter fun i => !reached.contains i
    if new.isEmpty then reached else closure f n (unite reached new) new

def ends (text : Array Char) : Pattern → List Nat → List Nat
  | .nothing, s => s
  | .oneOf set, s =>
    s.filterMap fun i => text[i]?.bind fun c => if set.holds c.toNat then some (i + 1) else none
  | .boundary b, s => s.filter (b.holdsAt text)
  | .seq p q, s => q.ends text (p.ends text s)
  | .alt p q, s => unite (p.ends text s) (q.ends text s)
  | .times p least most, s =>
    let start := iterate (p.ends text) least s
    let limit := match most with
      | some m => min (m - least) (text.size + 1)
      | none => text.size + 1
    closure (p.ends text) limit start start

def isMatch (p : Pattern) (s : String) : Bool :=
  let text := s.toList.toArray
  !(p.ends text (List.range (text.size + 1))).isEmpty

-- Whether a pattern can match nothing but the empty text.
def isEmptyOnly : Pattern → Bool
  | .nothing => true
  | .oneOf _ => false
  | .boundary _ => true
  | .seq p q => p.isEmptyOnly && q.isEmptyOnly
  | .alt p q => p.isEmptyOnly && q.isEmptyOnly
  | .times p _ most => most = some 0 || p.isEmptyOnly

end Pattern

end TreeAudit
