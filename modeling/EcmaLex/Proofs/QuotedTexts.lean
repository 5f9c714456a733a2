import EcmaLex.Text.Quoted
import Mathlib.Data.List.Forall2

/-!
# Reading back quoted texts

A quoted text determines the text: the spellings of characters are such that none is the beginning
of another character's spelling, and none starts with the double quote that ends the text. This
holds however the choice is made which characters are written as they are, as long as the double
quote, the backslash and the characters that end lines or fields are not among them; the choice may
even differ from one place in the text to another.

## Main definitions

* `EcmaLex.Text.Spells` : the spellings of a character.
* `EcmaLex.Text.IsQuoted` : a text between double quotes, by any spellings of its characters.
* `EcmaLex.Text.readCharacter?` : the first character of a spelled text.

## Main results

* `EcmaLex.Text.Spells.readCharacter?_eq` : a spelling is read back as its character.
* `EcmaLex.Text.IsQuoted.inj` : a quoted text determines the text.
* `EcmaLex.Text.isQuoted_quote` : the texts of the command line are quoted texts.
-/

namespace EcmaLex.Text

/-! ### Separators -/

/-- What stands in front of the first separator, and what stands behind it. -/
theorem append_cons_inj {c : Char} {front front' back back' : List Char} (hfront : c ∉ front)
    (hfront' : c ∉ front') (h : front ++ c :: back = front' ++ c :: back') :
    front = front' ∧ back = back' := by
  induction front generalizing front' with
  | nil =>
    cases front' with
    | nil => exact ⟨rfl, (List.cons.inj h).2⟩
    | cons d front' => exact absurd (List.mem_cons.mpr (.inl (List.cons.inj h).1)) hfront'
  | cons d front ih =>
    cases front' with
    | nil => exact absurd (List.mem_cons.mpr (.inl (List.cons.inj h).1.symm)) hfront
    | cons d' front' =>
      obtain ⟨rfl, htail⟩ := List.cons.inj h
      obtain ⟨rfl, hback⟩ := ih (fun hmem => hfront (.tail d hmem))
        (fun hmem => hfront' (.tail d hmem)) htail
      exact ⟨rfl, hback⟩

/-! ### Digits -/

/-- The characters that write numbers. -/
theorem exists_digitChar_of_mem_toDigits {b n : Nat} {c : Char} (hb : 1 < b)
    (h : c ∈ Nat.toDigits b n) : ∃ d < b, c = Nat.digitChar d := by
  induction n using Nat.strongRecOn with
  | ind n ih =>
    rw [Nat.toDigits_eq_if hb] at h
    split at h
    · rename_i hlt
      exact ⟨n, hlt, List.mem_singleton.mp h⟩
    · rename_i hle
      obtain hfront | hlast := List.mem_append.mp h
      · exact ih (n / b) (Nat.div_lt_self (by omega) hb) hfront
      · exact ⟨n % b, Nat.mod_lt n (by omega), List.mem_singleton.mp hlast⟩

/-- The number that hexadecimal digits write. -/
def hexValue (digits : List Char) : Nat :=
  digits.foldl (fun n c => 16 * n + "0123456789abcdef".toList.idxOf c) 0

theorem hexValue_toDigits (n : Nat) : hexValue (Nat.toDigits 16 n) = n := by
  have hdigit : ∀ d < 16, "0123456789abcdef".toList.idxOf (Nat.digitChar d) = d := by decide
  induction n using Nat.strongRecOn with
  | ind n ih =>
    rw [Nat.toDigits_eq_if (by decide)]
    split
    · rename_i hlt
      exact (Nat.zero_add _).trans (hdigit n hlt)
    · rename_i hle
      have hfront := ih (n / 16) (by omega)
      have hlast := hdigit (n % 16) (Nat.mod_lt n (by decide))
      rw [hexValue] at hfront
      rw [hexValue, List.foldl_append, hfront, List.foldl_cons, hlast]
      exact Nat.div_add_mod n 16

/-! ### Spellings of characters -/

/-- The characters with a letter of their own, and the letter. -/
def letters : List (Char × Char) :=
  [('"', '"'), ('\\', '\\'), ('\n', 'n'), ('\r', 'r'), ('\t', 't'), ('\x00', '0')]

/-- The spellings of a character in a quoted text: the character itself, a backslash and the letter
of the character, or its code point. -/
inductive Spells (c : Char) : List Char → Prop
  | plain (h : c ∉ ['"', '\\', '\n', '\r', '\t']) : Spells c [c]
  | letter {l : Char} (h : (c, l) ∈ letters) : Spells c ['\\', l]
  | codePoint : Spells c (escapeCodePoint c)

/-- A text between double quotes, each of its characters in some spelling. -/
def IsQuoted (text out : List Char) : Prop :=
  ∃ spelled, List.Forall₂ Spells text spelled ∧ out = '"' :: spelled.flatten ++ ['"']

/-! ### Reading a character -/

/-- The character that is spelled behind a backslash, and the text behind its spelling. -/
def readEscape? : List Char → Option (Char × List Char)
  | [] => none
  | l :: rest =>
    if l = 'u' then
      let isHex := fun d => d != '}'
      some (Char.ofNat (hexValue ((rest.drop 1).takeWhile isHex)),
        ((rest.drop 1).dropWhile isHex).drop 1)
    else (letters.find? fun p => p.2 == l).map fun p => (p.1, rest)

/-- The character whose spelling a text starts with, and the text behind the spelling; there is none
in front of the closing double quote. -/
def readCharacter? : List Char → Option (Char × List Char)
  | [] => none
  | c :: rest =>
    if c = '"' then none
    else if c = '\\' then readEscape? rest
    else some (c, rest)

variable {c d : Char} {text text' piece piece' back back' : List Char}
  {spelled spelled' : List (List Char)}

/-- The digits of a number stop in front of the closing brace. -/
theorem ne_brace_of_mem_toDigits {n : Nat} (h : c ∈ Nat.toDigits 16 n) : (c != '}') = true := by
  obtain ⟨d, hd, rfl⟩ := exists_digitChar_of_mem_toDigits (by decide) h
  have hbrace : ∀ d < 16, (Nat.digitChar d != '}') = true := by decide
  exact hbrace d hd

/-- **A spelling is read back as its character.** -/
theorem Spells.readCharacter?_eq (h : Spells c piece) (back : List Char) :
    readCharacter? (piece ++ back) = some (c, back) := by
  cases h with
  | plain hc =>
    simp only [List.mem_cons, not_or] at hc
    exact (if_neg hc.1).trans (if_neg hc.2.1)
  | @letter l hl =>
    have hread : ∀ p ∈ letters, p.2 ≠ 'u' ∧ letters.find? (fun q => q.2 == p.2) = some p := by
      decide
    obtain ⟨hu, hfind⟩ := hread _ hl
    calc readCharacter? (['\\', l] ++ back)
      _ = (letters.find? fun q => q.2 == l).map fun p => (p.1, back) := if_neg hu
      _ = some (c, back) := by rw [hfind, Option.map_some]
  | codePoint =>
    have hdigits : ∀ d ∈ Nat.toDigits 16 c.toNat, (d != '}') = true :=
      fun d hd => ne_brace_of_mem_toDigits hd
    have hpiece : escapeCodePoint c ++ back =
        '\\' :: 'u' :: '{' :: (Nat.toDigits 16 c.toNat ++ '}' :: back) := by
      simp [escapeCodePoint]
    rw [hpiece]
    simp [readCharacter?, readEscape?, List.takeWhile_append_of_pos hdigits,
      List.dropWhile_append_of_pos hdigits, hexValue_toDigits]

/-- No spelling is the beginning of another character's. -/
theorem Spells.append_inj (h : Spells c piece) (h' : Spells d piece')
    (heq : piece ++ back = piece' ++ back') : c = d ∧ back = back' := by
  have hread := h.readCharacter?_eq back
  rw [heq, h'.readCharacter?_eq back'] at hread
  obtain ⟨rfl, rfl⟩ := Prod.mk.inj (Option.some.inj hread)
  exact ⟨rfl, rfl⟩

/-- No spelling starts with a double quote. -/
theorem Spells.append_ne_quote_cons (h : Spells c piece) : piece ++ back ≠ '"' :: back' := by
  intro heq
  have hread := h.readCharacter?_eq back
  rw [heq] at hread
  cases hread

/-! ### Reading a text -/

/-- Spelled texts in front of a double quote. -/
theorem eq_of_spelled (h : List.Forall₂ Spells text spelled)
    (h' : List.Forall₂ Spells text' spelled')
    (heq : spelled.flatten ++ '"' :: back = spelled'.flatten ++ '"' :: back') : text = text' := by
  induction h generalizing text' spelled' with
  | nil =>
    cases h' with
    | nil => rfl
    | cons hd =>
      -- the one text has ended and the other goes on
      rw [List.flatten_cons, List.append_assoc] at heq
      exact absurd heq.symm hd.append_ne_quote_cons
  | cons hc _ ih =>
    rw [List.flatten_cons, List.append_assoc] at heq
    cases h' with
    | nil => exact absurd heq hc.append_ne_quote_cons
    | cons hd htext' =>
      rw [List.flatten_cons, List.append_assoc] at heq
      obtain ⟨rfl, htail⟩ := hc.append_inj hd heq
      exact congrArg _ (ih htext' htail)

/-- **A quoted text determines the text.** -/
theorem IsQuoted.inj {out : List Char} (h : IsQuoted text out) (h' : IsQuoted text' out) :
    text = text' := by
  obtain ⟨spelled, hspelled, rfl⟩ := h
  obtain ⟨spelled', hspelled', heq⟩ := h'
  exact eq_of_spelled hspelled hspelled' (List.cons.inj heq).2

/-! ### Quoting -/

theorem spells_escape (hidden : Char → Bool) (c : Char) : Spells c (escape hidden c) := by
  fun_cases escape hidden c with
  | case7 c => exact .codePoint
  | case8 c hquote hbackslash hfeed hreturn htab =>
    refine .plain ?_
    simp only [List.mem_cons, List.not_mem_nil, or_false, not_or]
    exact ⟨hquote, hbackslash, hfeed, hreturn, htab⟩
  | _ => exact .letter (by decide)

/-- **Quoting spells each character**, whichever characters are hidden. -/
theorem isQuoted_quoteWith (hidden : Char → Bool) (text : List Char) :
    IsQuoted text (quoteWith hidden text) := by
  refine ⟨text.map (escape hidden), ?_, ?_⟩
  · rw [List.forall₂_map_right_iff, List.forall₂_same]
    exact fun c _ => spells_escape hidden c
  · rw [quoteWith, List.flatMap_def]

theorem isQuoted_quote (text : List Char) : IsQuoted text (quote text) :=
  isQuoted_quoteWith Unicode.isInvisible text

end EcmaLex.Text
