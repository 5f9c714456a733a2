import EcmaLex.Proofs.LineColumn

/-!
# Moves of a cursor

A cursor moves past one character, past a number of characters, or past the longest run of
characters that satisfy a predicate, and each move gives what it passes. Each move is a passage, so
a list of moves passes just what its moves give, one after the other: nothing of the text is lost,
and the cursor is where the number of these characters puts it, however they were grouped. A group
may end between a carriage return and its line feed, which is the place where the line has not
ended yet.

## Main definitions

* `EcmaLex.Cursor.Move` : the moves.
* `EcmaLex.Cursor.move`, `EcmaLex.Cursor.moves` : what is passed, and the cursor behind it.
* `EcmaLex.Cursor.MovesExactly` : the laws of the moves from one place in a text.

## Main results

* `EcmaLex.Cursor.passes_moves` : a list of moves is a passage.
* `EcmaLex.Cursor.Passes.movesExactly` : the laws hold wherever a cursor comes in a text.
* `EcmaLex.Cursor.moves_read_text` : moves read the text, and their grouping does not matter.
-/

namespace EcmaLex.Cursor

/-- The moves of a cursor: past one character, past a number of characters, or past the characters
that satisfy a predicate. -/
inductive Move
  | take
  | takeN (n : Nat)
  | takeWhile (p : Char → Bool)

/-- The characters that a move passes, and the cursor behind them. -/
def move (k : Cursor) : Move → List Char × Cursor
  | .take => (k.take.1.toList, k.take.2)
  | .takeN n => k.takeN n
  | .takeWhile p => k.takeWhile p

/-- What each of some moves passes, and the cursor behind the last. -/
def moves : List Move → Cursor → List (List Char) × Cursor
  | [], k => ([], k)
  | m :: ms, k =>
    let (piece, k) := k.move m
    let (pieces, k) := moves ms k
    (piece :: pieces, k)

/-- The laws of the moves of a cursor in a text. -/
structure MovesExactly (text : List Char) (k : Cursor) : Prop where
  /-- A move gives the part of the text between the offsets in front of it and behind it. -/
  slice?_eq : ∀ m, Text.slice? text k.offset (k.move m).2.offset = some (k.move m).1
  /-- Of the parts at the front of the text ahead whose characters all satisfy `p`, a run is the one
  that all others start. -/
  takeWhile_longest : ∀ p, (k.takeWhile p).1 <+: k.rest ∧ (∀ c ∈ (k.takeWhile p).1, p c = true) ∧
    ∀ run, run <+: k.rest → (∀ c ∈ run, p c = true) → run <+: (k.takeWhile p).1
  takeN_first : ∀ n, (k.takeN n).1 <+: k.rest ∧ (k.takeN n).1.length = min n k.rest.length
  take_eq : k.take = ((k.takeN 1).1.head?, (k.takeN 1).2)
  takeN_add : ∀ a b, k.takeN (a + b) =
    ((k.takeN a).1 ++ ((k.takeN a).2.takeN b).1, ((k.takeN a).2.takeN b).2)
  peekNth_eq : ∀ n, k.peekNth n = (k.takeN n).2.take.1
  isFinished_iff_peek : k.isFinished = true ↔ k.peek = none
  isFinished_iff_offset : k.isFinished = true ↔ Text.byteLength text ≤ k.offset
  move_of_isFinished : k.isFinished = true → k.take.1 = none ∧ ∀ m, k.move m = ([], k)

variable {k k' : Cursor} {p : Char → Bool} {run : List Char}

/-! ### Single moves -/

/-- The longest run is the one that all others start. -/
theorem prefix_takeWhile (hrun : run <+: k.rest) (hall : ∀ c ∈ run, p c = true) :
    run <+: (k.takeWhile p).1 := by
  obtain ⟨rest, hrest⟩ := hrun
  rw [takeWhile, ← hrest, List.takeWhile_append_of_pos hall]
  exact List.prefix_append run _

theorem takeN_add (k : Cursor) (a b : Nat) :
    k.takeN (a + b) =
      ((k.takeN a).1 ++ ((k.takeN a).2.takeN b).1, ((k.takeN a).2.takeN b).2) := by
  simp only [takeN, advance_add, rest_advance, List.take_add]

theorem peekNth_eq (k : Cursor) (n : Nat) : k.peekNth n = (k.takeN n).2.take.1 := by
  rw [takeN, take, peek, rest_advance, List.head?_drop, peekNth]

theorem take_eq_takeN (k : Cursor) : k.take = ((k.takeN 1).1.head?, (k.takeN 1).2) := by
  rw [take, peek, takeN, List.head?_take, if_neg Nat.one_ne_zero]

theorem isFinished_iff_peek (k : Cursor) : k.isFinished = true ↔ k.peek = none := by
  rw [isFinished_iff, peek, List.head?_eq_none_iff]

/-- Every move is over what it gives. -/
theorem passes_move (k : Cursor) (m : Move) : k.Passes (k.move m).1 (k.move m).2 := by
  cases m with
  | take =>
    have hone : k.take.1.toList = k.rest.take 1 := by
      cases hrest : k.rest <;> simp [take, peek, hrest]
    rw [move, hone]
    exact .advance k 1
  | takeN n => exact .advance k n
  | takeWhile p =>
    exact .of_rest_eq (List.takeWhile_append_dropWhile (p := p) (l := k.rest)).symm

theorem move_of_isFinished (h : k.isFinished = true) (m : Move) : k.move m = ([], k) := by
  have hpass := k.passes_move m
  have hnothing : (k.move m).1 = [] := by
    have hrest := hpass.rest_eq
    rw [k.isFinished_iff.mp h] at hrest
    exact (List.append_eq_nil_iff.mp hrest.symm).1
  have hstays := hpass.advance_eq
  rw [hnothing, List.length_nil, advance_zero] at hstays
  exact Prod.ext hnothing hstays.symm

/-! ### Lists of moves -/

/-- A list of moves is over what its moves give, in this order. -/
theorem passes_moves (ms : List Move) (k : Cursor) :
    k.Passes (moves ms k).1.flatten (moves ms k).2 := by
  induction ms generalizing k with
  | nil => exact .refl k
  | cons m ms ih => exact (k.passes_move m).trans (ih (k.move m).2)

/-- Only the number of characters that are passed matters. -/
theorem Passes.eq_of_length_eq {k₁ k₂ : Cursor} {piece₁ piece₂ : List Char}
    (h₁ : k.Passes piece₁ k₁) (h₂ : k.Passes piece₂ k₂) (h : piece₁.length = piece₂.length) :
    k₁ = k₂ := by
  rw [← h₁.advance_eq, ← h₂.advance_eq, h]

/-- **The laws hold wherever a cursor comes in a text.** -/
theorem Passes.movesExactly {text : String} {behind : List Char}
    (h : (ofString text).Passes behind k) : k.MovesExactly text.toList where
  slice?_eq m := h.slice?_eq_some (k.passes_move m)
  takeWhile_longest p := ⟨List.takeWhile_prefix p, List.all_eq_true.mp List.all_takeWhile,
    fun _ => prefix_takeWhile⟩
  takeN_first n := ⟨List.take_prefix n k.rest, List.length_take⟩
  take_eq := k.take_eq_takeN
  takeN_add := k.takeN_add
  peekNth_eq := k.peekNth_eq
  isFinished_iff_peek := k.isFinished_iff_peek
  isFinished_iff_offset := k.isFinished_iff.trans h.byteLength_le_offset_iff.symm
  move_of_isFinished hend := ⟨k.isFinished_iff_peek.mp hend, move_of_isFinished hend⟩

/-- **Moves read the text, and their grouping does not matter.** After any moves from the start of a
text, what they have given makes up the text together with what is ahead. The offset and the
position are those behind as many characters, found by counting, and the cursor is the one that any
other moves over as many characters lead to. From there the laws of the moves hold. -/
theorem moves_read_text (text : String) (ms : List Move) :
    let taken := (moves ms (ofString text)).1.flatten
    let k := (moves ms (ofString text)).2
    taken ++ k.rest = text.toList ∧
    k.offset = Text.byteLength (text.toList.take taken.length) ∧
    k.position = Text.place text.toList taken.length ∧
    (∀ ms', (moves ms' (ofString text)).1.flatten.length = taken.length →
      (moves ms' (ofString text)).2 = k) ∧
    k.MovesExactly text.toList := by
  intro taken k
  have hpass : (ofString text).Passes taken k := passes_moves ms (ofString text)
  have htaken : text.toList.take taken.length = taken := by
    rw [hpass.toList_eq, List.take_left]
  refine ⟨hpass.toList_eq.symm, ?_, hpass.position_eq_place, fun ms' hlength => ?_,
    hpass.movesExactly⟩
  · rw [htaken, hpass.offset_eq_byteLength]
  · exact (passes_moves ms' (ofString text)).eq_of_length_eq hpass hlength

/-- A first part that ends between a carriage return and its line feed has not ended the line. -/
example :
    let k := ((ofString "a\r\nb").takeN 2).2
    k.position = ⟨1, 2⟩ ∧ (k.takeN 1).2.position = ⟨2, 0⟩ := by decide

end EcmaLex.Cursor
