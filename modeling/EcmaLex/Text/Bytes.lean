/-!
# Byte offsets in a text

A text is a list of characters, and its byte offsets count the bytes of the UTF-8 form. A cut is
made only between two characters: an offset inside a character, or past the end, cuts nothing.

## Main definitions

* `EcmaLex.Text.byteLength` : the number of bytes of a text.
* `EcmaLex.Text.splitBytes?` : a text cut at a byte offset.
* `EcmaLex.Text.slice?` : the part of a text between two byte offsets.

## Main results

* `EcmaLex.Text.splitBytes?_eq_some_iff` : a cut yields exactly the two parts of the text whose
  first has the given length.
* `EcmaLex.Text.slice?_append` : the slice between the ends of a middle part is that part.
-/

namespace EcmaLex.Text

/-- The number of bytes of the UTF-8 form of a text. -/
def byteLength (text : List Char) : Nat := text.foldr (fun c n => c.utf8Size + n) 0

@[simp] theorem byteLength_nil : byteLength [] = 0 := rfl

@[simp] theorem byteLength_cons (c : Char) (text : List Char) :
    byteLength (c :: text) = c.utf8Size + byteLength text := rfl

@[simp] theorem byteLength_append (s t : List Char) :
    byteLength (s ++ t) = byteLength s + byteLength t := by
  induction s with
  | nil => simp
  | cons c s ih => rw [List.cons_append, byteLength_cons, byteLength_cons, ih, Nat.add_assoc]

theorem length_le_byteLength (text : List Char) : text.length ≤ byteLength text := by
  induction text with
  | nil => simp
  | cons c text ih =>
    have := c.utf8Size_pos
    simp only [List.length_cons, byteLength_cons]
    omega

/-- The parts of a text before and after the byte offset `k`, if a character starts or the text
ends there. -/
def splitBytes? : List Char → Nat → Option (List Char × List Char)
  | text, 0 => some ([], text)
  | [], _ + 1 => none
  | c :: text, k + 1 =>
    if c.utf8Size ≤ k + 1 then
      (splitBytes? text (k + 1 - c.utf8Size)).map fun (before, after) => (c :: before, after)
    else
      none

/-- The text between the byte offsets `start` and `stop`, if both lie between characters of the
text and in this order. -/
def slice? (text : List Char) (start stop : Nat) : Option (List Char) := do
  guard (start ≤ stop)
  let (_, after) ← splitBytes? text start
  let (middle, _) ← splitBytes? after (stop - start)
  return middle

theorem splitBytes?_append (before after : List Char) :
    splitBytes? (before ++ after) (byteLength before) = some (before, after) := by
  induction before with
  | nil => cases after <;> rfl
  | cons c before ih =>
    have hpos := c.utf8Size_pos
    obtain ⟨k, hk⟩ : ∃ k, c.utf8Size + byteLength before = k + 1 :=
      ⟨c.utf8Size + byteLength before - 1, by omega⟩
    have hsub : k + 1 - c.utf8Size = byteLength before := by omega
    simp only [List.cons_append, byteLength_cons, hk, splitBytes?, hsub, ih]
    simp only [Option.map_some, ite_eq_left_iff]
    omega

theorem eq_append_of_splitBytes? {text before after : List Char} {k : Nat}
    (h : splitBytes? text k = some (before, after)) :
    text = before ++ after ∧ byteLength before = k := by
  fun_induction splitBytes? text k generalizing before after with
  | case1 text => simp_all
  | case2 => simp at h
  | case3 c text k hk ih =>
    simp only [Option.map_eq_some_iff] at h
    obtain ⟨⟨b, a⟩, hb, heq⟩ := h
    obtain ⟨rfl, rfl⟩ := Prod.mk.inj heq
    obtain ⟨rfl, hlen⟩ := ih hb
    simp only [List.cons_append, byteLength_cons, hlen, true_and]
    omega
  | case4 => simp at h

theorem splitBytes?_eq_some_iff {text before after : List Char} {k : Nat} :
    splitBytes? text k = some (before, after) ↔
      text = before ++ after ∧ byteLength before = k := by
  refine ⟨eq_append_of_splitBytes?, ?_⟩
  rintro ⟨rfl, rfl⟩
  exact splitBytes?_append before after

theorem slice?_append (before middle after : List Char) :
    slice? (before ++ middle ++ after) (byteLength before) (byteLength (before ++ middle)) =
      some middle := by
  have hguard : (guard (byteLength before ≤ byteLength (before ++ middle)) : Option Unit) =
      some () := if_pos (by simp)
  rw [slice?, hguard]
  simp [splitBytes?_append]

end EcmaLex.Text
