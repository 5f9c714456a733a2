import EcmaLex.Character
import EcmaLex.Location
import EcmaLex.Text.Bytes

/-!
# Cursors

A cursor stands between two characters of a text. It holds the characters ahead of it, its byte
offset and its position, and it only moves forward. All movement is `Cursor.advance`, so where a
cursor stands depends on how many characters it has passed and not on how they were grouped.

A line ends behind a line terminator, except that a carriage return before a line feed leaves the
end of the line to the line feed.

## Main definitions

* `EcmaLex.Cursor.advance` : the cursor some characters further on, or at the end of the text.
* `EcmaLex.Cursor.take`, `EcmaLex.Cursor.takeWhile`, `EcmaLex.Cursor.takeN` : the characters
  passed, together with the cursor behind them.

## Main results

* `EcmaLex.Cursor.rest_advance` : advancing drops characters from the text ahead.
* `EcmaLex.Cursor.offset_advance` : advancing adds the bytes of those characters to the offset.
* `EcmaLex.Cursor.advance_add` : advancing twice is advancing once by the sum.
-/

namespace EcmaLex

/-- Whether the line ends behind the character `c` when `next` is the character after it. -/
def endsLine (c : Char) (next : Option Char) : Bool :=
  isLineTerminator c && !(c == '\r' && next == some '\n')

/-- The position behind the character `c` at `p`, when `next` is the character after it. -/
def Position.after (p : Position) (c : Char) (next : Option Char) : Position :=
  if endsLine c next then ⟨p.line + 1, 0⟩ else ⟨p.line, p.column + 1⟩

/-- A place between two characters of a text. -/
structure Cursor where
  /-- The characters ahead. -/
  rest : List Char
  /-- The number of bytes behind. -/
  offset : Nat := 0
  position : Position := {}
  deriving DecidableEq, Repr

namespace Cursor

/-- The cursor at the start of a text. -/
def ofString (text : String) : Cursor := { rest := text.toList }

/-- The cursor behind the character `c`, of which `rest` follows. -/
def past (k : Cursor) (c : Char) (rest : List Char) : Cursor where
  rest := rest
  offset := k.offset + c.utf8Size
  position := k.position.after c rest.head?

/-- The cursor `n` characters further on, or at the end of the text if fewer are ahead. -/
def advance (k : Cursor) : Nat → Cursor
  | 0 => k
  | n + 1 =>
    match k.rest with
    | [] => k
    | c :: rest => (k.past c rest).advance n

/-- The cursor at the end of the text. -/
def finish (k : Cursor) : Cursor := k.advance k.rest.length

/-- Whether no character is ahead. -/
def isFinished (k : Cursor) : Bool := k.rest.isEmpty

/-- The next character ahead. -/
def peek (k : Cursor) : Option Char := k.rest.head?

/-- The character that `n` others precede in the text ahead. -/
def peekNth (k : Cursor) (n : Nat) : Option Char := k.rest[n]?

/-- Whether the text ahead starts with `text`. -/
def upcoming (k : Cursor) (text : List Char) : Bool := text.isPrefixOf k.rest

/-- Whether a character is ahead and satisfies `p`. -/
def upcomingIf (k : Cursor) (p : Char → Bool) : Bool := k.peek.any p

/-- The next character, and the cursor behind it. -/
def take (k : Cursor) : Option Char × Cursor := (k.peek, k.advance 1)

/-- The next `n` characters, or all if fewer are ahead, and the cursor behind them. -/
def takeN (k : Cursor) (n : Nat) : List Char × Cursor := (k.rest.take n, k.advance n)

/-- The longest run of characters ahead that satisfy `p`, and the cursor behind it. -/
def takeWhile (k : Cursor) (p : Char → Bool) : List Char × Cursor :=
  let run := k.rest.takeWhile p
  (run, k.advance run.length)

/-- The bytes from the offset `start` up to the cursor. -/
def spanFrom (k : Cursor) (start : Nat) : Span := ⟨start, k.offset⟩

variable (k : Cursor)

@[simp] theorem rest_ofString (text : String) : (ofString text).rest = text.toList := rfl

@[simp] theorem advance_zero : k.advance 0 = k := rfl

theorem advance_of_rest_eq_nil (h : k.rest = []) (n : Nat) : k.advance n = k := by
  cases n with
  | zero => rfl
  | succ n => rw [advance, h]

theorem advance_succ {c : Char} {rest : List Char} (h : k.rest = c :: rest) (n : Nat) :
    k.advance (n + 1) = (k.past c rest).advance n := by
  rw [advance, h]

@[simp] theorem rest_advance (n : Nat) : (k.advance n).rest = k.rest.drop n := by
  induction n generalizing k with
  | zero => rfl
  | succ n ih =>
    cases h : k.rest with
    | nil => simp [k.advance_of_rest_eq_nil h, h]
    | cons c rest => rw [k.advance_succ h, ih]; rfl

theorem offset_advance (n : Nat) :
    (k.advance n).offset = k.offset + Text.byteLength (k.rest.take n) := by
  induction n generalizing k with
  | zero => simp
  | succ n ih =>
    cases h : k.rest with
    | nil => simp [k.advance_of_rest_eq_nil h]
    | cons c rest =>
      rw [k.advance_succ h, ih]
      simp [past, Nat.add_assoc]

theorem advance_add (m n : Nat) : k.advance (m + n) = (k.advance m).advance n := by
  induction m generalizing k with
  | zero => simp
  | succ m ih =>
    cases h : k.rest with
    | nil => simp [k.advance_of_rest_eq_nil h]
    | cons c rest =>
      rw [Nat.add_right_comm, k.advance_succ h, k.advance_succ h, ih]

@[simp] theorem rest_finish : k.finish.rest = [] := by simp [finish]

theorem isFinished_iff : k.isFinished = true ↔ k.rest = [] := by simp [isFinished]

end Cursor

end EcmaLex
