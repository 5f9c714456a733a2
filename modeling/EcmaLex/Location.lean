/-!
# Places in a source text

A place in a source text is named in two ways: by its byte offset in the UTF-8 form, two of which
bound a `Span`, and by a `Position`, a line and a column, two of which bound a `SourceLocation`.
Lines are counted from one and columns from zero, in characters.

## Main definitions

* `EcmaLex.Span` : a half-open range of byte offsets.
* `EcmaLex.Position` : a line and a column, ordered by line first.
* `EcmaLex.SourceLocation` : the positions where something starts and ends.
-/

namespace EcmaLex

/-- Byte offsets from `start` up to, not including, `stop`. -/
structure Span where
  start : Nat := 0
  stop : Nat := 0
  deriving DecidableEq, Repr, Inhabited

namespace Span

/-- Whether a span covers no byte because its two ends coincide. -/
def isEmpty (s : Span) : Bool := s.start == s.stop

/-- The number of bytes covered; a span whose end precedes its start has none. -/
def length? (s : Span) : Option Nat :=
  if s.start ≤ s.stop then some (s.stop - s.start) else none

/-- The order of spans: by start, then by end. -/
protected def compare (s t : Span) : Ordering :=
  (compare s.start t.start).then (compare s.stop t.stop)

instance : Ord Span := ⟨Span.compare⟩

end Span

/-- A line, counted from one, and a column in it, counted from zero. -/
structure Position where
  line : Nat := 1
  column : Nat := 0
  deriving DecidableEq, Repr

instance : Inhabited Position := ⟨{}⟩

namespace Position

/-- The order of positions: by line, then by column. -/
protected def compare (p q : Position) : Ordering :=
  (compare p.line q.line).then (compare p.column q.column)

instance : Ord Position := ⟨Position.compare⟩

/-- Whether `p` comes before `q`, or is the same place. -/
protected def le (p q : Position) : Prop :=
  p.line < q.line ∨ p.line = q.line ∧ p.column ≤ q.column

instance : LE Position := ⟨Position.le⟩

/-- Whether `p` comes strictly before `q`. -/
protected def lt (p q : Position) : Prop :=
  p.line < q.line ∨ p.line = q.line ∧ p.column < q.column

instance : LT Position := ⟨Position.lt⟩

instance (p q : Position) : Decidable (p ≤ q) :=
  inferInstanceAs (Decidable (p.line < q.line ∨ p.line = q.line ∧ p.column ≤ q.column))

instance (p q : Position) : Decidable (p < q) :=
  inferInstanceAs (Decidable (p.line < q.line ∨ p.line = q.line ∧ p.column < q.column))

/-- The earlier of two positions. -/
instance : Min Position := ⟨fun p q => if p ≤ q then p else q⟩

/-- The written form of a position: line and column with a colon between them. -/
def text (p : Position) : String :=
  toString p.line ++ ":" ++ toString p.column

end Position

/-- The positions where something starts and ends. -/
structure SourceLocation where
  start : Position := {}
  /-- The position just past the last character. -/
  stop : Position := {}
  deriving DecidableEq, Repr, Inhabited

/-- The written form of a location: its two positions with a hyphen between them. -/
def SourceLocation.text (l : SourceLocation) : String :=
  l.start.text ++ "-" ++ l.stop.text

end EcmaLex
