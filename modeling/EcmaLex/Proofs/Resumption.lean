import EcmaLex.Proofs.SessionStates

/-!
# Resumption in the middle of a text

A scanner depends on nothing that it has passed. To go on from any state is to scan the text ahead
with a scanner of its own and to shift what it gives: byte offsets by the offset of the state, and
positions by its line and column, where only the first line keeps the column that it starts in.
This holds in every place a scanner can come to, also between a carriage return and its line feed.

Shifting commutes with every movement of a cursor, hence with skipping, with each step and with any
steps in a row. A state is its own beginning, shifted.

## Main definitions

* `EcmaLex.Origin` : a place in a text at which another text starts.
* `EcmaLex.Position.shift`, `EcmaLex.Result.shift`, `EcmaLex.Scanner.shift` : what is found in the
  text that starts there, seen from the whole.

## Main results

* `EcmaLex.Cursor.advance_shift`, `EcmaLex.Cursor.skip_shift` : movements of shifted cursors.
* `EcmaLex.Scanner.steps_shift` : the steps of a shifted scanner are the shifted steps.
* `EcmaLex.Scanner.steps_of_session` : the steps from a state are those of the text ahead, shifted.
-/

namespace EcmaLex

/-! ### Shifting -/

/-- A place in a text at which another text starts, with `offset` bytes in front of it. -/
structure Origin where
  offset : Nat
  position : Position
  deriving DecidableEq, Repr

/-- A position in a text that starts at `o`, seen from the whole. -/
def Position.shift (o : Origin) (p : Position) : Position :=
  if p.line = 1 then ⟨o.position.line, o.position.column + p.column⟩
  else ⟨o.position.line + p.line - 1, p.column⟩

/-- A span in a text that starts at `o`, seen from the whole. -/
def Span.shift (o : Origin) (span : Span) : Span := ⟨o.offset + span.start, o.offset + span.stop⟩

/-- A token of a text that starts at `o`, seen from the whole. -/
def Token.shift (o : Origin) (t : Token) : Token where
  tag := t.tag
  lexeme := t.lexeme
  location := ⟨t.location.start.shift o, t.location.stop.shift o⟩
  source := t.source
  span := t.span.shift o

/-- A failure in a text that starts at `o`, seen from the whole. -/
def ScanError.shift (o : Origin) (e : ScanError) : ScanError := ⟨e.construct, e.start.shift o⟩

/-- What a step gives in a text that starts at `o`, seen from the whole. -/
def Result.shift (o : Origin) : Result → Result
  | .ok t => .ok (t.shift o)
  | .error e => .error (e.shift o)

/-- A cursor in a text that starts at `o`, seen from the whole. -/
def Cursor.shift (o : Origin) (k : Cursor) : Cursor where
  rest := k.rest
  offset := o.offset + k.offset
  position := k.position.shift o

/-- A scanner of a text that starts at `o`, seen from the whole. -/
def Scanner.shift (o : Origin) (s : Scanner) : Scanner := s.moveTo (s.cursor.shift o)

variable {config : Config} {o : Origin}

/-! ### Movements of shifted cursors -/

/-- The position behind a character moves with the position in front of it. -/
theorem Position.after_shift {p : Position} (hp : 0 < p.line) (c : Char) (next : Option Char) :
    (p.shift o).after c next = (p.after c next).shift o := by
  by_cases hend : endsLine c next = true
  · have hline : p.line + 1 ≠ 1 := by omega
    by_cases hfirst : p.line = 1
    · simp [after, shift, hend, hfirst]
    · simp only [after, shift, hend, hfirst, hline, if_true, if_false, Position.mk.injEq, and_true]
      omega
  · by_cases hfirst : p.line = 1
    · simp [after, shift, hend, hfirst, Nat.add_assoc]
    · simp [after, shift, hend, hfirst]

namespace Cursor

variable {k k' : Cursor} {piece : List Char}

@[simp] theorem isFinished_shift (o : Origin) (k : Cursor) :
    (k.shift o).isFinished = k.isFinished := rfl

theorem past_shift (hk : 0 < k.position.line) (c : Char) (rest : List Char) :
    (k.shift o).past c rest = (k.past c rest).shift o := by
  simp only [past, shift, Position.after_shift hk, Nat.add_assoc]

/-- Lines are counted from one. -/
theorem line_pos_advance (hk : 0 < k.position.line) (n : Nat) :
    0 < (k.advance n).position.line := by
  induction n generalizing k with
  | zero => exact hk
  | succ n ih =>
    cases hrest : k.rest with
    | nil => rwa [k.advance_of_rest_eq_nil hrest]
    | cons c rest =>
      rw [k.advance_succ hrest]
      refine ih ?_
      unfold past Position.after
      split
      · exact Nat.succ_pos _
      · exact hk

theorem Passes.line_pos (h : k.Passes piece k') (hk : 0 < k.position.line) :
    0 < k'.position.line :=
  h.advance_eq ▸ line_pos_advance hk piece.length

/-- A shifted cursor moves as the cursor does. -/
theorem advance_shift (hk : 0 < k.position.line) (n : Nat) :
    (k.shift o).advance n = (k.advance n).shift o := by
  induction n generalizing k with
  | zero => rfl
  | succ n ih =>
    cases hrest : k.rest with
    | nil => rw [k.advance_of_rest_eq_nil hrest, (k.shift o).advance_of_rest_eq_nil hrest]
    | cons c rest =>
      have hpast : 0 < (k.past c rest).position.line := by
        have hnext := line_pos_advance hk 1
        rwa [k.advance_succ hrest] at hnext
      rw [k.advance_succ hrest, (k.shift o).advance_succ hrest, past_shift hk, ih hpast]

theorem finish_shift (hk : 0 < k.position.line) : (k.shift o).finish = k.finish.shift o :=
  advance_shift hk k.rest.length

/-- A shifted cursor skips what the cursor skips. -/
theorem skip_shift {k : Cursor} (hk : 0 < k.position.line) :
    (k.shift o).skip config =
      ((k.skip config).1.mapError (ScanError.shift o), (k.skip config).2.shift o) := by
  cases hkind : layoutKind? config k.rest with
  | none =>
    rw [skip_of_layoutKind?_eq_none (k := k.shift o) hkind, skip_of_layoutKind?_eq_none hkind]
    rfl
  | some kind =>
    cases hread : kind.read config k.rest with
    | error construct =>
      rw [skip_of_read_eq_error (k := k.shift o) hkind hread, skip_of_read_eq_error hkind hread,
        finish_shift hk]
      rfl
    | ok r =>
      rw [skip_of_read_eq_ok (k := k.shift o) hkind hread, skip_of_read_eq_ok hkind hread,
        advance_shift hk, skip_shift (line_pos_advance hk r.length)]
termination_by k.rest.length
decreasing_by exact length_rest_advance_lt hkind hread

end Cursor

/-! ### Steps of shifted scanners -/

namespace Scanner

variable {s : Scanner} {goal : Goal}

theorem readToken_shift (hs : 0 < s.position.line) (rule : Rule) :
    (s.shift o).readToken rule =
      (Result.shift o (s.readToken rule).1, (s.readToken rule).2.shift o) := by
  cases hread : rule.read s.config s.cursor.rest with
  | error construct =>
    rw [readToken_of_error (s := s.shift o) hread, readToken_of_error hread]
    simp only [shift, cursor_moveTo, Cursor.finish_shift hs]
    rfl
  | ok r =>
    rw [readToken_of_ok (s := s.shift o) hread, readToken_of_ok hread]
    simp only [shift, cursor_moveTo, Cursor.advance_shift hs]
    rfl

/-- **A shifted scanner makes the shifted step.** -/
theorem next_shift (hs : 0 < s.position.line) (goal : Goal) :
    (s.shift o).next goal = (Result.shift o (s.next goal).1, (s.next goal).2.shift o) := by
  have hskip : (s.shift o).cursor.skip (s.shift o).config =
      ((s.cursor.skip s.config).1.mapError (ScanError.shift o),
        (s.cursor.skip s.config).2.shift o) := Cursor.skip_shift hs
  obtain ⟨gap, hgap⟩ := s.cursor.exists_passes_skip s.config
  rw [next, hskip, next]
  generalize s.cursor.skip s.config = skipped at hgap
  obtain ⟨e | _, k⟩ := skipped
  · rfl
  · have hk : 0 < (s.moveTo k).position.line := hgap.line_pos hs
    have hdone : (Except.ok () : Except ScanError Unit).mapError (ScanError.shift o) = .ok () := rfl
    have hmoved : (s.shift o).moveTo (k.shift o) = (s.moveTo k).shift o := rfl
    by_cases hfin : k.isFinished = true
    · simp only [hdone, Cursor.isFinished_shift, hfin, if_true]
      rfl
    · simp only [hdone, Cursor.isFinished_shift, hfin, hmoved]
      exact readToken_shift hk (Rule.select s.config goal k.rest)

/-- The steps of a shifted scanner are the shifted steps. -/
theorem steps_shift (hs : 0 < s.position.line) (goals : List Goal) :
    steps goals (s.shift o) =
      ((steps goals s).1.map (Result.shift o), (steps goals s).2.shift o) := by
  induction goals generalizing s with
  | nil => rfl
  | cons goal goals ih =>
    obtain ⟨piece, hpiece⟩ := s.exists_passes_next goal
    have hnext : 0 < (s.next goal).2.position.line := hpiece.line_pos hs
    rw [steps_cons, next_shift hs, ih hnext, steps_cons]
    rfl

/-! ### States of scanners -/

/-- The place where a scanner stands. -/
def origin (s : Scanner) : Origin := ⟨s.cursor.offset, s.position⟩

/-- A scanner is the scanner at the start of the text ahead, shifted to where it stands. -/
theorem shift_ofString_rest (s : Scanner) :
    (ofString (String.ofList s.cursor.rest) s.config).shift s.origin = s := by
  have hrest : (String.ofList s.cursor.rest).toList = s.cursor.rest := String.toList_ofList
  simp only [shift, ofString, Cursor.shift, Cursor.ofString, moveTo, hrest]
  rfl

/-- **To go on from a state is to scan the rest of the text.** Behind any requests of a session the
byte offset of the scanner splits the text of the file, and the steps with any goals are those of a
new scanner for what is behind the offset, shifted. -/
theorem steps_of_session (file : SourceFile) (config : Config)
    (requests : List Session.Request) :
    let s := ((Session.start file config).after requests).scanner
    ∃ before after, Text.splitBytes? file.contents.toList s.cursor.offset = some (before, after) ∧
      ∀ goals, steps goals s =
        ((steps goals (ofString (String.ofList after) config)).1.map (Result.shift s.origin),
          (steps goals (ofString (String.ofList after) config)).2.shift s.origin) := by
  intro s
  obtain ⟨⟨before, hpass⟩, hconfig⟩ := Session.reaches_scanner_after file config requests
  refine ⟨before, s.cursor.rest, ?_, fun goals => ?_⟩
  · have htext : file.contents.toList = before ++ s.cursor.rest := Cursor.Passes.toList_eq hpass
    have hoffset : s.cursor.offset = Text.byteLength before :=
      Cursor.Passes.offset_eq_byteLength hpass
    rw [htext, hoffset, Text.splitBytes?_append]
  · have hfresh : (ofString (String.ofList s.cursor.rest) config).shift s.origin = s := by
      rw [show config = s.config from hconfig.symm]
      exact shift_ofString_rest s
    have hline : 0 < (ofString (String.ofList s.cursor.rest) config).position.line := Nat.one_pos
    rw [← steps_shift hline, hfresh]

/-- An operator that takes the first character of a line end leaves the scanner inside of it. -/
example :
    ((ofString "+\r\n" { operators := ["+", "\r"] }).next .division).2.cursor =
      ⟨['\n'], 2, ⟨1, 2⟩⟩ := by cbv

end Scanner

end EcmaLex
