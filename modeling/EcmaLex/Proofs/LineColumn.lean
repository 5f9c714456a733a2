import EcmaLex.Proofs.CursorPassage
import Mathlib.Data.Nat.Count
import Mathlib.Data.Prod.Lex

/-!
# Lines and columns of byte offsets

The position of a byte offset is found from the text alone, by counting: the line is one more than
the number of characters before the offset that end a line, and the column is the number of
characters after the last of these. A cursor keeps its position character by character, with one
character of lookahead, and agrees with the count wherever it stands.

Positions are ordered by line first, then by column, so their order is linear.

## Main definitions

* `EcmaLex.Text.endsLineAt` : the characters of a text that end a line.
* `EcmaLex.Text.place` : the position before a character, found by counting.
* `EcmaLex.Text.positionAt` : the position of a byte offset.

## Main results

* `EcmaLex.Text.place_lt` : later characters have later positions.
* `EcmaLex.Cursor.Passes.positionAt_offset` : a cursor stands at the position of its offset.
-/

namespace EcmaLex

namespace Position

/-- The line and the column, as a pair in lexicographic order. -/
def key (p : Position) : ℕ ×ₗ ℕ := toLex (p.line, p.column)

theorem key_injective : Function.Injective key := by
  rintro ⟨line, column⟩ ⟨line', column'⟩ h
  cases h
  rfl

theorem key_le_key {p q : Position} : p.key ≤ q.key ↔ p ≤ q := Prod.Lex.toLex_le_toLex

theorem key_lt_key {p q : Position} : p.key < q.key ↔ p < q := Prod.Lex.toLex_lt_toLex

theorem compare_key (p q : Position) : compare p.key q.key = compare p q := rfl

instance : LinearOrder Position where
  __ := Function.Injective.partialOrder key key_injective key_le_key key_lt_key
  le_total p q := (le_total p.key q.key).imp key_le_key.mp key_le_key.mp
  toDecidableLE := inferInstance
  toDecidableEq := inferInstance
  toDecidableLT := inferInstance
  compare_eq_compareOfLessAndEq p q := by
    rw [← compare_key, LinearOrder.compare_eq_compareOfLessAndEq]
    simp only [compareOfLessAndEq, key_lt_key, key_injective.eq_iff]

end Position

namespace Text

/-! ### Counting -/

/-- Whether the character at the index `i` ends a line: it is a line terminator, and it is no
carriage return with a line feed directly behind it. -/
def endsLineAt (text : List Char) (i : Nat) : Bool :=
  text[i]?.any isLineTerminator && !(text[i]? == some '\r' && text[i + 1]? == some '\n')

/-- One more than the number of the first `n` characters that end a line. -/
def lineOf (text : List Char) (n : Nat) : Nat := 1 + Nat.count (endsLineAt text · = true) n

/-- The number of the first `n` characters that come after the last of them that ends a line. -/
def columnOf (text : List Char) (n : Nat) : Nat :=
  Nat.count (fun i => ∀ j < n, i ≤ j → endsLineAt text j = false) n

/-- The position behind the first `n` characters of a text. -/
def place (text : List Char) (n : Nat) : Position := ⟨lineOf text n, columnOf text n⟩

/-- The position of the byte offset `k`, if a character starts or the text ends there. -/
def positionAt (text : List Char) (k : Nat) : Option Position :=
  (splitBytes? text k).map fun (before, _) => place text before.length

variable (text : List Char) (n : Nat)

@[simp] theorem place_zero : place text 0 = {} := by simp [place, lineOf, columnOf]

theorem columnOf_succ_of_endsLineAt (h : endsLineAt text n = true) : columnOf text (n + 1) = 0 := by
  rw [columnOf, Nat.count_iff_forall_not]
  intro i hi hall
  have hfalse := hall n (Nat.lt_succ_self n) (Nat.le_of_lt_succ hi)
  rw [h] at hfalse
  cases hfalse

theorem columnOf_succ_of_not_endsLineAt (h : endsLineAt text n = false) :
    columnOf text (n + 1) = columnOf text n + 1 := by
  have hsame : ∀ i, (∀ j < n + 1, i ≤ j → endsLineAt text j = false) ↔
      ∀ j < n, i ≤ j → endsLineAt text j = false := by
    refine fun i => ⟨fun hall j hj => hall j (Nat.lt_succ_of_lt hj), fun hall j hj hij => ?_⟩
    rcases Nat.lt_succ_iff_lt_or_eq.mp hj with hlt | rfl
    · exact hall j hlt hij
    · exact h
  simp only [columnOf, hsame, Nat.count_succ]
  rw [if_pos fun j hj hle => absurd hj (Nat.not_lt.mpr hle)]

theorem place_succ :
    place text (n + 1) =
      if endsLineAt text n then ⟨(place text n).line + 1, 0⟩
      else ⟨(place text n).line, (place text n).column + 1⟩ := by
  cases h : endsLineAt text n with
  | true =>
    simp only [place, lineOf, Nat.count_succ, h, columnOf_succ_of_endsLineAt text n h, if_true,
      Nat.add_assoc]
  | false =>
    simp [place, lineOf, Nat.count_succ, h, columnOf_succ_of_not_endsLineAt text n h]

variable {text n}

/-- Later characters have later positions. -/
theorem place_lt {m : Nat} (h : m < n) : place text m < place text n := by
  have hstep : ∀ i, place text i < place text (i + 1) := by
    intro i
    rw [place_succ]
    split
    · exact Or.inl (Nat.lt_succ_self _)
    · exact Or.inr ⟨rfl, Nat.lt_succ_self _⟩
  induction h with
  | refl => exact hstep m
  | step _ ih => exact ih.trans (hstep _)

/-- Each character ends a line or counts a column at most. -/
theorem counts_place_le (text : List Char) (n : Nat) :
    (place text n).line - 1 + (place text n).column ≤ n := by
  induction n with
  | zero => simp
  | succ n ih =>
    rw [place_succ]
    split
    · dsimp only
      omega
    · dsimp only
      omega

/-! ### Counting and moving -/

theorem endsLineAt_length (before rest : List Char) (c : Char) :
    endsLineAt (before ++ c :: rest) before.length = endsLine c rest.head? := by
  have hnext : (before ++ c :: rest)[before.length + 1]? = rest.head? := by
    rw [List.getElem?_append_right (Nat.le_add_right _ _), Nat.add_sub_cancel_left,
      List.getElem?_cons_succ, List.head?_eq_getElem?]
  have hhere : (before ++ c :: rest)[before.length]? = some c := by
    rw [List.getElem?_append_right (Nat.le_refl _), Nat.sub_self, List.getElem?_cons_zero]
  rw [endsLineAt, hnext, hhere, endsLine]
  rfl

/-- The count behind a character continues as a cursor that passes it does. -/
theorem place_append_cons (before rest : List Char) (c : Char) :
    place (before ++ c :: rest) (before.length + 1) =
      (place (before ++ c :: rest) before.length).after c rest.head? := by
  rw [place_succ, endsLineAt_length, Position.after]

theorem positionAt_append (before after : List Char) :
    positionAt (before ++ after) (byteLength before) =
      some (place (before ++ after) before.length) := by
  rw [positionAt, splitBytes?_append, Option.map_some]

/-- The position of a byte offset is strictly increasing in the offset. -/
theorem positionAt_lt {j k : Nat} {p q : Position} (hp : positionAt text j = some p)
    (hq : positionAt text k = some q) (h : j < k) : p < q := by
  obtain ⟨⟨before, rest⟩, hj, rfl⟩ := Option.map_eq_some_iff.mp hp
  obtain ⟨⟨before', rest'⟩, hk, rfl⟩ := Option.map_eq_some_iff.mp hq
  obtain ⟨htext, hlen⟩ := splitBytes?_eq_some_iff.mp hj
  obtain ⟨htext', hlen'⟩ := splitBytes?_eq_some_iff.mp hk
  refine place_lt (Nat.lt_of_not_le fun hle => ?_)
  -- the shorter of two parts at the front of one text is at the front of the longer
  have hpre : before' <+: before := List.prefix_of_prefix_length_le
    ⟨rest', htext'.symm⟩ ⟨rest, htext.symm⟩ hle
  obtain ⟨more, rfl⟩ := hpre
  rw [byteLength_append] at hlen
  omega

end Text

/-! ### The position of a cursor -/

namespace Cursor

variable {k k' : Cursor}

theorem Passes.position_eq {piece before : List Char} (h : k.Passes piece k')
    (hk : k.position = Text.place (before ++ k.rest) before.length) :
    k'.position = Text.place (before ++ k.rest) (before.length + piece.length) := by
  induction piece generalizing k before with
  | nil =>
    rw [← h.advance_eq]
    exact hk
  | cons c piece ih =>
    have hrest : k.rest = c :: (piece ++ k'.rest) := h.rest_eq
    have hpast := (Passes.cons_iff hrest).mp h
    have hplace : (k.past c (piece ++ k'.rest)).position =
        Text.place (before ++ [c] ++ (piece ++ k'.rest)) (before ++ [c]).length := by
      rw [List.append_assoc, List.singleton_append, List.length_append, List.length_singleton,
        Text.place_append_cons, ← hrest, ← hk]
      rfl
    have hend := ih hpast hplace
    rw [List.append_assoc, List.length_append, List.length_singleton] at hend
    rw [hend, hrest, List.length_cons, Nat.add_assoc, Nat.add_comm 1]
    rfl

variable {text : String} {behind : List Char}

theorem Passes.position_eq_place (h : (ofString text).Passes behind k) :
    k.position = Text.place text.toList behind.length := by
  have hstart : (ofString text).position =
      Text.place ([] ++ (ofString text).rest) ([] : List Char).length := by
    rw [List.length_nil, Text.place_zero]
    rfl
  have hend := h.position_eq hstart
  rwa [List.nil_append, List.length_nil, Nat.zero_add] at hend

/-- **A cursor stands at the position of its byte offset.** -/
theorem Passes.positionAt_offset (h : (ofString text).Passes behind k) :
    Text.positionAt text.toList k.offset = some k.position := by
  rw [h.position_eq_place, h.offset_eq_byteLength, h.toList_eq]
  exact Text.positionAt_append behind k.rest

theorem Passes.position_le {piece : List Char} (hk : (ofString text).Passes behind k)
    (h : k.Passes piece k') : k.position ≤ k'.position := by
  cases piece with
  | nil =>
    rw [← h.advance_eq]
    exact le_rfl
  | cons c piece =>
    rw [hk.position_eq_place, (hk.trans h).position_eq_place]
    refine (Text.place_lt ?_).le
    simp

theorem Passes.position_lt {piece : List Char} (hk : (ofString text).Passes behind k)
    (h : k.Passes piece k') (hne : piece ≠ []) : k.position < k'.position := by
  rw [hk.position_eq_place, (hk.trans h).position_eq_place, List.length_append]
  exact Text.place_lt (Nat.lt_add_of_pos_right (List.length_pos_iff.mpr hne))

end Cursor

end EcmaLex
