import EcmaLex.CommandLine.Tokenize
import EcmaLex.Proofs.QuotedTexts
import EcmaLex.Proofs.TokenPieces

/-!
# Lines of tokens

The command line prints a token on one line, in three fields with a tab between them: nothing that
is printed of it is a tab or ends a line. Numerals are made of digits and few other characters, a
quoted text has its tabs and line feeds escaped, and a character that is a token of its own is
neither, since the scanner skips white space and line terminators.

## Main definitions

* `EcmaLex.IsField` : a text without tabs and line feeds.
* `EcmaLex.Token.lineWith` : the line of a token, with texts quoted in any way.

## Main results

* `EcmaLex.isField_floatNumeral`, `EcmaLex.Text.IsQuoted.isField` : no value that is printed ends a
  field or a line.
* `EcmaLex.Scanner.isField_tag_of_mem_run` : no kind of tokens that is printed does.
* `EcmaLex.Scanner.exists_row_of_mem_run` : a token of a run is printed on one line.
-/

namespace EcmaLex

/-! ### Fields -/

/-- A text without tabs and line feeds, which a field of a line can hold. -/
def IsField (text : List Char) : Prop := ∀ c ∈ text, c ≠ '\t' ∧ c ≠ '\n'

instance (text : List Char) : Decidable (IsField text) :=
  List.decidableBAll (fun c => c ≠ '\t' ∧ c ≠ '\n') text

@[simp] theorem isField_cons {c : Char} {text : List Char} :
    IsField (c :: text) ↔ (c ≠ '\t' ∧ c ≠ '\n') ∧ IsField text := List.forall_mem_cons

@[simp] theorem isField_append {text text' : List Char} :
    IsField (text ++ text') ↔ IsField text ∧ IsField text' := List.forall_mem_append

@[simp] theorem isField_nil : IsField [] := List.forall_mem_nil _

namespace IsField

variable {text : List Char}

theorem tab_not_mem (h : IsField text) : '\t' ∉ text := fun hmem => (h _ hmem).1 rfl

theorem newline_not_mem (h : IsField text) : '\n' ∉ text := fun hmem => (h _ hmem).2 rfl

theorem take (h : IsField text) (n : Nat) : IsField (text.take n) :=
  fun c hc => h c (List.mem_of_mem_take hc)

theorem drop (h : IsField text) (n : Nat) : IsField (text.drop n) :=
  fun c hc => h c (List.mem_of_mem_drop hc)

end IsField

/-! ### Numerals -/

theorem isField_toDigits {b : Nat} (hb : 1 < b) (hhex : b ≤ 16) (n : Nat) :
    IsField (Nat.toDigits b n) := by
  intro c hc
  obtain ⟨d, hd, rfl⟩ := Text.exists_digitChar_of_mem_toDigits hb hc
  have hdigit : ∀ d < 16, Nat.digitChar d ≠ '\t' ∧ Nat.digitChar d ≠ '\n' := by decide
  exact hdigit d (Nat.lt_of_lt_of_le hd hhex)

theorem isField_decimal (n : Nat) : IsField (Nat.toDigits 10 n) :=
  isField_toDigits (by decide) (by decide) n

theorem isField_zeros (n : Nat) : IsField (zeros n) := by
  intro c hc
  rw [List.eq_of_mem_replicate hc]
  decide

theorem isField_numeral (d : Decimal) : IsField d.numeral := by
  have hdigits := isField_decimal d.digits
  unfold Decimal.numeral
  simp only
  split
  · simp [hdigits, isField_zeros]
  · split
    · simp [hdigits.take, hdigits.drop]
    · simp [hdigits, isField_zeros]

/-- A number is printed without tabs and line feeds. -/
theorem isField_floatNumeral (x : Float) : IsField (floatNumeral x) := by
  have hnumeral : ∀ y : Float64, IsField y.numeral := by
    intro y
    cases y with
    | nan => decide
    | infinite => decide
    | zero => decide
    | finite x => exact isField_numeral x.shortest
  unfold floatNumeral
  simp only
  split
  · exact hnumeral .nan
  · split
    · exact hnumeral _
    · simpa using hnumeral _

/-! ### Quoted texts -/

theorem Text.Spells.isField {c : Char} {piece : List Char} (h : Spells c piece) :
    IsField piece := by
  cases h with
  | plain hc =>
    simp only [List.mem_cons, not_or] at hc
    obtain ⟨-, -, hfeed, -, htab, -⟩ := hc
    simp [hfeed, htab]
  | letter hl =>
    have hletters : ∀ p ∈ letters, IsField ['\\', p.2] := by decide
    exact hletters _ hl
  | codePoint =>
    have hhex := isField_toDigits (b := 16) (by decide) (by decide) c.toNat
    simp [escapeCodePoint, hhex]

/-- A quoted text has neither tabs nor line feeds. -/
theorem Text.IsQuoted.isField {text out : List Char} (h : IsQuoted text out) : IsField out := by
  obtain ⟨spelled, hspelled, rfl⟩ := h
  have hbody : IsField spelled.flatten := by
    induction hspelled with
    | nil => exact isField_nil
    | cons hc _ ih => exact isField_append.mpr ⟨hc.isField, ih⟩
  simp [hbody]

/-! ### Tokens -/

/-- The value of a token as it is printed, with texts quoted by `quote`. -/
def Lexeme.printedWith (quote : List Char → List Char) : Lexeme → List Char
  | text s => quote s.toList
  | number x => floatNumeral x

/-- The line of a token, the line feed at its end included, with texts quoted by `quote`. -/
def Token.lineWith (quote : List Char → List Char) (t : Token) : List Char :=
  t.location.text.toList ++ '\t' :: t.tag.text.toList ++ '\t' :: t.lexeme.printedWith quote ++
    ['\n']

/-- The command line prints the lines with texts quoted in its own way. -/
theorem Token.lineWith_quote (t : Token) : t.lineWith Text.quote = t.line := by
  cases h : t.lexeme with
  | text => rw [lineWith, line, h]; rfl
  | number => rw [lineWith, line, h]; rfl

variable {quote : List Char → List Char}

theorem Lexeme.isField_printedWith (hquote : ∀ text, Text.IsQuoted text (quote text))
    (lexeme : Lexeme) : IsField (lexeme.printedWith quote) := by
  cases lexeme with
  | text s => exact (hquote s.toList).isField
  | number x => exact isField_floatNumeral x

theorem SourceLocation.isField_text (l : SourceLocation) : IsField l.text.toList := by
  simp [SourceLocation.text, Position.text, isField_decimal]

/-- The names of kinds of tokens hold no tab and no line feed; a character might be one. -/
theorem Tag.isField_text {tag : Tag} (h : ∀ c, tag = .char c → c ≠ '\t' ∧ c ≠ '\n') :
    IsField tag.text.toList := by
  cases tag with
  | char c => simpa [Tag.text] using h c rfl
  | _ => decide

/-- No token is a tab or a line feed. -/
theorem TokenPiece.tag_ne {config : Config} {goal : Goal} {raw rest : List Char}
    {form : Form} {d : Char} (h : TokenPiece config goal raw form rest)
    (htag : form.tag = .char d) : d ≠ '\t' ∧ d ≠ '\n' := by
  cases h with
  | comment => cases htag
  | @ofHead c raw _ _ hterm hblank _ h =>
    have hrule := (Rule.gives_of_read h.read_eq).rule?_eq
    rw [htag] at hrule
    rw [← Option.some.inj hrule] at h
    cases h with
    | single =>
      cases htag
      constructor
      · rintro rfl
        cases hblank
      · rintro rfl
        cases hterm

namespace Scanner

variable {text : String} {config : Config} {goal : Goal} {t : Token}

/-- A token of a run is a piece of the text. -/
theorem exists_tokenPiece_of_mem_run (h : t ∈ ((ofString text config).run goal).tokens) :
    ∃ goal raw after form, TokenPiece config goal raw form after ∧ t.tag = form.tag ∧
      t.lexeme = form.lexeme := by
  obtain ⟨n, htokens, -⟩ := exists_steps_before_ending goal (ofString text config)
  have hmem : .ok t ∈ (steps (List.replicate n goal) (ofString text config)).1 := by
    rw [htokens]
    exact List.mem_map_of_mem h
  obtain ⟨goal, -, _, raw, after, form, -, -, hpiece, htag, hlexeme⟩ :=
    exists_tokenPiece_of_mem_steps hmem (isEof_eq_false_of_mem_run h)
  exact ⟨goal, raw, after, form, hpiece, htag, hlexeme⟩

theorem isField_tag_of_mem_run (h : t ∈ ((ofString text config).run goal).tokens) :
    IsField t.tag.text.toList := by
  obtain ⟨_, _, _, _, hpiece, htag, -⟩ := exists_tokenPiece_of_mem_run h
  exact Tag.isField_text fun c hc => hpiece.tag_ne (htag.symm.trans hc)

/-- **A token of a run is printed on one line.** -/
theorem exists_row_of_mem_run (h : t ∈ ((ofString text config).run goal).tokens) :
    ∃ row, t.line = row ++ ['\n'] ∧ '\n' ∉ row := by
  have hlocation := t.location.isField_text.newline_not_mem
  have htag := (isField_tag_of_mem_run h).newline_not_mem
  have hvalue := (t.lexeme.isField_printedWith Text.isQuoted_quote).newline_not_mem
  refine ⟨_, t.lineWith_quote.symm, ?_⟩
  simp [hlocation, htag, hvalue]

end Scanner

end EcmaLex
