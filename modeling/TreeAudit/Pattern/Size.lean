import TreeAudit.Pattern.Basic

-- The size of patterns: how deep their parts are nested, and how many bytes a pattern takes when it is
-- laid out as a machine that reads a text backwards byte by byte. A pattern that is too deep or too large
-- is refused, so that matching stays within bounds.
namespace TreeAudit.Pattern

abbrev ByteRanges := List (Nat × Nat)

def trailingByte (n i : Nat) : Nat := 0x80 + n / Nat.pow 64 i % 64

def encodedIn (length n : Nat) : List Nat :=
  match length with
  | 2 => [0xC0 + n / 64, trailingByte n 0]
  | 3 => [0xE0 + n / Nat.pow 64 2, trailingByte n 1, trailingByte n 0]
  | 4 => [0xF0 + n / Nat.pow 64 3, trailingByte n 2, trailingByte n 1, trailingByte n 0]
  | _ => [n]

-- The places where a range of code points is cut: at the ends of a length of encoding and around the
-- code points that are no characters.
def encodingBlocks : List (Nat × Nat × Nat) :=
  [(1, 0, 0x7F), (2, 0x80, 0x7FF), (3, 0x800, 0xD7FF), (3, 0xE000, 0xFFFF), (4, 0x10000, 0x10FFFF)]

-- Cuts a range of one length of encoding until each part is a product of byte ranges. The parts are in
-- order; a part spans whole multiples of `64 ^ i` below the first byte in which its ends differ.
def products (length : Nat) : Nat → Nat → Nat → List ByteRanges
  | 0, _, _ => []
  | fuel + 1, first, last =>
    let cut := (List.range (length - 1)).find? fun i =>
      let unit := Nat.pow 64 (i + 1)
      first / unit ≠ last / unit && (first % unit ≠ 0 || last % unit ≠ unit - 1)
    match cut with
    | none => [(encodedIn length first).zip (encodedIn length last)]
    | some i =>
      let unit := Nat.pow 64 (i + 1)
      let middle := if first % unit ≠ 0 then (first / unit + 1) * unit else last / unit * unit
      products length fuel first (middle - 1) ++ products length fuel middle last

def byteRanges (first last : Nat) : List ByteRanges :=
  encodingBlocks.flatMap fun (length, low, high) =>
    let (a, b) := (max first low, min last high)
    if a ≤ b then products length 8 a b else []

def sharedLength [BEq α] : List α → List α → Nat
  | a :: as, b :: bs => if a == b then sharedLength as bs + 1 else 0
  | _, _ => 0

def stepWeight : Nat := 32

def choiceWeight (ways : Nat) : Nat := stepWeight + 4 * ways

def sharedWeight (previous : ByteRanges) : List ByteRanges → Nat
  | [] => 0
  | r :: rs => stepWeight * (r.length - sharedLength previous r) + 4 + sharedWeight r rs

-- The weight of a set of characters: a single one is a row of steps, ASCII characters are one step,
-- and others are a choice among byte ranges.
def setWeight (s : CharSet) : Nat :=
  match s with
  | [] => stepWeight
  | [(first, last)] =>
    if first = last then stepWeight * ((byteRanges first last).headD []).length
    else if s.isAscii then 2 * stepWeight + 8
    else 2 * stepWeight + sharedWeight [] (byteRanges first last)
  | _ =>
    if s.isAscii then 2 * stepWeight + 8 * s.length
    else 2 * stepWeight + sharedWeight [] (s.flatMap fun (first, last) => byteRanges first last)

structure Sized where
  pattern : Pattern
  height : Nat
  weight : Nat
deriving Repr

namespace Sized

def nothing : Sized := ⟨.nothing, 0, stepWeight⟩

def ofSet (s : CharSet) : Sized := ⟨.oneOf s, 0, setWeight s⟩

def ofBoundary (b : Boundary) : Sized := ⟨.boundary b, 0, stepWeight⟩

def bracketed (p : Sized) : Sized := { p with height := p.height + 1 }

-- A group; one that captures marks where it starts and ends.
def group (captures : Bool) (p : Sized) : Sized :=
  { p with
    height := p.height + 1
    weight := p.weight + if captures then 2 * stepWeight else 0 }

def greatestHeight (ps : List Sized) : Nat := ps.foldl (fun h p => max h p.height) 0
def totalWeight (ps : List Sized) : Nat := ps.foldl (fun w p => w + p.weight) 0

def sequence : List Sized → Sized
  | [] => nothing
  | [p] => p
  | ps => ⟨ps.foldr (fun p q => .seq p.pattern q) .nothing, greatestHeight ps + 1, totalWeight ps⟩

def alternatives : List Sized → Sized
  | [] => nothing
  | p :: ps =>
    if ps.isEmpty then p
    else
      ⟨ps.foldl (fun q r => .alt q r.pattern) p.pattern, greatestHeight (p :: ps) + 1,
        totalWeight (p :: ps) + choiceWeight (ps.length + 1) + stepWeight⟩

def timesWeight (w least : Nat) : Option Nat → Nat
  | none => w * max 1 least + choiceWeight 2
  | some most =>
    stepWeight + w * most + if least = most then 0 else stepWeight + choiceWeight 2 * (most - least)

-- A repetition. What matches only the empty text needs one copy at most.
def times (p : Sized) (least : Nat) (most : Option Nat) : Sized :=
  let (least, most) :=
    if p.pattern.isEmptyOnly then (min least 1, some (min (most.getD 1) 1)) else (least, most)
  ⟨.times p.pattern least most, p.height + 1, timesWeight p.weight least most⟩

def heightLimit : Nat := 250
def weightLimit : Nat := 10 * Nat.pow 2 20

def isAcceptable (p : Sized) : Bool := p.height ≤ heightLimit && p.weight ≤ weightLimit

end Sized

end TreeAudit.Pattern
