import TreeAudit.Text.Slice

-- Places in a source text. Bytes are counted from zero, lines and columns from one; a column counts
-- characters.
namespace TreeAudit

structure Span where
  startByte : Nat
  endByte : Nat
  startLine : Nat
  startColumn : Nat
  endLine : Nat
  endColumn : Nat
deriving Repr, DecidableEq, Inhabited

namespace Span

def lineCount (s : Span) : Nat := s.endLine - s.startLine + 1

def place (s : Span) : String := s!"{s.startLine}:{s.startColumn}"

def position (source : String) (byte : Nat) : Nat × Nat :=
  let before := Text.takeBytes byte source.toList
  (before.count '\n' + 1, (before.reverse.takeWhile (· ≠ '\n')).length + 1)

def ofBytes (source : String) (start stop : Nat) : Span :=
  let (startLine, startColumn) := position source start
  let (endLine, endColumn) := position source stop
  ⟨start, stop, startLine, startColumn, endLine, endColumn⟩

end Span

end TreeAudit
