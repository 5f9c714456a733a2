import EcmaLex.Cursor

/-!
# Passages of a cursor

All movement of a cursor is over some characters that stand ahead of it. A passage names these
characters: `k.Passes piece k'` says that the cursor `k` has `piece` ahead, followed by what `k'`
has ahead, and that moving over `piece` takes `k` to `k'`. Passages compose, so that the place of a
cursor in a text is the passage from the start of the text.

## Main definitions

* `EcmaLex.Cursor.Passes` : a cursor moved over given characters.

## Main results

* `EcmaLex.Cursor.Passes.trans` : passages compose.
* `EcmaLex.Cursor.Passes.offset_eq` : a passage adds the bytes of its characters to the offset.
* `EcmaLex.Cursor.Passes.slice?_eq_some` : a passage cuts its characters out of the text.
-/

namespace EcmaLex.Cursor

/-- The cursor `k` has `piece` ahead, and `k'` is the cursor behind it. -/
structure Passes (k : Cursor) (piece : List Char) (k' : Cursor) : Prop where
  rest_eq : k.rest = piece ++ k'.rest
  advance_eq : k.advance piece.length = k'

variable {k k' k'' : Cursor} {piece piece' : List Char}

namespace Passes

theorem refl (k : Cursor) : k.Passes [] k := ⟨rfl, rfl⟩

/-- A cursor passes what it has in front of any other text. -/
theorem of_rest_eq {rest : List Char} (h : k.rest = piece ++ rest) :
    k.Passes piece (k.advance piece.length) where
  rest_eq := by rw [rest_advance, h, List.drop_left]
  advance_eq := rfl

theorem trans (h : k.Passes piece k') (h' : k'.Passes piece' k'') :
    k.Passes (piece ++ piece') k'' where
  rest_eq := by rw [h.rest_eq, h'.rest_eq, List.append_assoc]
  advance_eq := by rw [List.length_append, advance_add, h.advance_eq, h'.advance_eq]

/-- A passage over two pieces is one over the first, and then one over the second. -/
theorem split (h : k.Passes (piece ++ piece') k'') :
    k.Passes piece (k.advance piece.length) ∧ (k.advance piece.length).Passes piece' k'' := by
  have hrest : k.rest = piece ++ (piece' ++ k''.rest) := by
    rw [h.rest_eq, List.append_assoc]
  refine ⟨of_rest_eq hrest, ?_, ?_⟩
  · rw [rest_advance, hrest, List.drop_left]
  · rw [← advance_add, ← List.length_append, h.advance_eq]

/-- The end of the text is where a cursor is behind all that it has ahead. -/
theorem finish (k : Cursor) : k.Passes k.rest k.finish where
  rest_eq := by rw [rest_finish, List.append_nil]
  advance_eq := rfl

/-- A cursor passes as many characters as it advances by, or all. -/
theorem advance (k : Cursor) (n : Nat) : k.Passes (k.rest.take n) (k.advance n) where
  rest_eq := by rw [rest_advance, List.take_append_drop]
  advance_eq := by
    rcases Nat.le_total n k.rest.length with hle | hle
    · rw [List.length_take_of_le hle]
    · obtain ⟨m, rfl⟩ := Nat.exists_eq_add_of_le hle
      rw [List.take_of_length_le hle, advance_add]
      exact (advance_of_rest_eq_nil _ k.rest_finish m).symm

/-- Every cursor in a text comes to the same end. -/
theorem finish_eq (h : k.Passes piece k') : k'.finish = k.finish := by
  have hend := h.trans (finish k')
  rw [← hend.advance_eq, ← h.rest_eq]
  rfl

/-- To pass a character and more is to pass more from behind the character. -/
theorem cons_iff {c : Char} {rest : List Char} (hrest : k.rest = c :: rest) :
    k.Passes (c :: piece) k' ↔ (k.past c rest).Passes piece k' := by
  constructor
  · intro h
    refine ⟨(List.cons.inj (hrest.symm.trans h.rest_eq)).2, ?_⟩
    rw [← k.advance_succ hrest]
    exact h.advance_eq
  · intro h
    refine ⟨hrest.trans (congrArg (c :: ·) h.rest_eq), ?_⟩
    rw [List.length_cons, k.advance_succ hrest]
    exact h.advance_eq

theorem offset_eq (h : k.Passes piece k') : k'.offset = k.offset + Text.byteLength piece := by
  rw [← h.advance_eq, offset_advance, h.rest_eq, List.take_left]

end Passes

/-! ### Passages from the start of a text -/

variable {text : String} {behind : List Char}

/-- What a cursor has passed and what it has ahead make up the text. -/
theorem Passes.toList_eq (h : (ofString text).Passes behind k) : text.toList = behind ++ k.rest :=
  h.rest_eq

theorem Passes.offset_eq_byteLength (h : (ofString text).Passes behind k) :
    k.offset = Text.byteLength behind := by
  have hoff := h.offset_eq
  rwa [show (ofString text).offset = 0 from rfl, Nat.zero_add] at hoff

/-- The offset is at the end of the text only where nothing is ahead. -/
theorem Passes.byteLength_le_offset_iff (h : (ofString text).Passes behind k) :
    Text.byteLength text.toList ≤ k.offset ↔ k.rest = [] := by
  have hlength := Text.length_le_byteLength k.rest
  rw [h.offset_eq_byteLength, h.toList_eq, Text.byteLength_append]
  constructor
  · intro hle
    exact List.length_eq_zero_iff.mp (by omega)
  · intro hend
    exact Nat.le_of_eq (by rw [hend, Text.byteLength_nil, Nat.add_zero])

/-- The text between the offsets of two cursors is what the one passes to become the other. -/
theorem Passes.slice?_eq_some (hk : (ofString text).Passes behind k) (h : k.Passes piece k') :
    Text.slice? text.toList k.offset k'.offset = some piece := by
  have htext : text.toList = behind ++ piece ++ k'.rest := by
    rw [hk.toList_eq, h.rest_eq, List.append_assoc]
  rw [hk.offset_eq_byteLength, (hk.trans h).offset_eq_byteLength, htext]
  exact Text.slice?_append behind piece k'.rest

end EcmaLex.Cursor
