import EcmaLex.Unicode.WordCharacter

/-!
# Search patterns on one character

A character class may be given by a search pattern. It is only ever searched in the text that
consists of the one character in question, so a match runs between the two ends of that text, and
what a pattern can do there is told by three facts: whether it matches nothing at the start,
whether it matches the character, and whether it matches nothing at the end.

## Main definitions

* `EcmaLex.Pattern` : patterns built from sets of characters, anchors, sequence, choice and
  repetition.
* `EcmaLex.Pattern.reach` : the three facts about a pattern on a character.
* `EcmaLex.Pattern.isMatch` : whether a pattern occurs in the text of a character.

## Main results

* `EcmaLex.Reach.power_eq_iterate` : repeating more than twice reaches no further than repeating
  twice.
-/

namespace EcmaLex

/-- A set of characters. -/
abbrev CharSet := Char → Bool

/-- Conditions on a place in the searched text. A line starts where the text starts or just behind a
line feed, and ends where the text ends or just before a line feed. A word boundary is between a
word character and something else. -/
inductive Anchor
  | textStart
  | textEnd
  | lineStart
  | lineEnd
  | wordBoundary
  | wordInterior
  deriving DecidableEq, Repr

/-- Search patterns. The empty pattern matches nothing, anywhere, and an anchor matches nothing
where its condition holds. A repeated pattern matches at least `least` times, and at most `most`
times if that is given. -/
inductive Pattern
  | empty
  | set (members : CharSet)
  | anchor (a : Anchor)
  | seq (p q : Pattern)
  | alt (p q : Pattern)
  | repeated (p : Pattern) (least : Nat) (most : Option Nat)

/-- What a pattern matches in a text of one character. -/
structure Reach where
  /-- Whether it matches nothing before the character. -/
  atStart : Bool
  /-- Whether it matches the character. -/
  across : Bool
  /-- Whether it matches nothing behind the character. -/
  atEnd : Bool
  deriving DecidableEq, Repr

namespace Reach

/-- Matching nothing, at either end. -/
def one : Reach := ⟨true, false, true⟩

/-- Matching first `r` and then `s`. -/
def seq (r s : Reach) : Reach where
  atStart := r.atStart && s.atStart
  across := r.atStart && s.across || r.across && s.atEnd
  atEnd := r.atEnd && s.atEnd

/-- Matching `r` or `s`. -/
def alt (r s : Reach) : Reach where
  atStart := r.atStart || s.atStart
  across := r.across || s.across
  atEnd := r.atEnd || s.atEnd

/-- Matching `r` as often as the numeral says, one after the other. -/
def iterate (r : Reach) : Nat → Reach
  | 0 => one
  | n + 1 => (r.iterate n).seq r

/-- Matching `r` repeatedly; there is one character to pass, so no more than two need be tried. -/
def power (r : Reach) (n : Nat) : Reach := r.iterate (min n 2)

/-- Matching `r` at least `least` times, and at most `most` times if that is given. -/
def repeated (r : Reach) (least : Nat) (most : Option Nat) : Reach :=
  match most with
  | some most => if most ≤ least then r.power least else (r.power least).seq (one.alt r)
  | none => (r.power least).seq (one.alt r)

theorem iterate_add_three (r : Reach) (n : Nat) : r.iterate (n + 3) = r.iterate 2 := by
  induction n with
  | zero => rcases r with ⟨_ | _, _ | _, _ | _⟩ <;> rfl
  | succ n ih =>
    rw [Nat.succ_add, iterate, ih]
    rcases r with ⟨_ | _, _ | _, _ | _⟩ <;> rfl

theorem power_eq_iterate (r : Reach) (n : Nat) : r.power n = r.iterate n := by
  match n with
  | 0 => rfl
  | 1 => rfl
  | 2 => rfl
  | n + 3 => rw [iterate_add_three, power, Nat.min_eq_right (by omega)]

end Reach

/-- What an anchor matches in the text of the character `c`. -/
def Anchor.reach (c : Char) : Anchor → Reach
  | .textStart => ⟨true, false, false⟩
  | .textEnd => ⟨false, false, true⟩
  | .lineStart => ⟨true, false, c == '\n'⟩
  | .lineEnd => ⟨c == '\n', false, true⟩
  | .wordBoundary => ⟨Unicode.isWordCharacter c, false, Unicode.isWordCharacter c⟩
  | .wordInterior => ⟨!Unicode.isWordCharacter c, false, !Unicode.isWordCharacter c⟩

namespace Pattern

/-- What a pattern matches in the text of the character `c`. -/
def reach (c : Char) : Pattern → Reach
  | empty => .one
  | set members => ⟨false, members c, false⟩
  | anchor a => a.reach c
  | seq p q => (p.reach c).seq (q.reach c)
  | alt p q => (p.reach c).alt (q.reach c)
  | repeated p least most => (p.reach c).repeated least most

/-- Whether a pattern occurs anywhere in the text of the character `c`. -/
def isMatch (p : Pattern) (c : Char) : Bool :=
  let r := p.reach c
  r.atStart || r.across || r.atEnd

end Pattern

end EcmaLex
