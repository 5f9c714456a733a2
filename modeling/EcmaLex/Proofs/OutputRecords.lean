import EcmaLex.Proofs.TokenLines

/-!
# Reading back the output

The output of the command line is a record of the tokens: each line of it gives back the location
and the kind of its token, and the value if that is a text. The fields of a line are told apart by
the tabs, the parts of a location by the colons and the hyphen, and the kinds by their names, of
which none has a single character. Only numbers are printed without quotes, and only numbers have
the kind of numbers.

Nothing here depends on which characters a quoted text hides.

## Main definitions

* `EcmaLex.Tag.ofText` : the kind of tokens with a name.

## Main results

* `EcmaLex.SourceLocation.text_inj`, `EcmaLex.Tag.ofText_text` : locations and kinds are read back.
* `EcmaLex.Token.fields_of_lineWith_eq` : tokens with the same line agree.
* `EcmaLex.CommandLine.output_records_tokens` : the output of any file.
-/

namespace EcmaLex

/-! ### Locations -/

theorem not_mem_decimal {c : Char} (hc : ∀ d < 10, Nat.digitChar d ≠ c) (n : Nat) :
    c ∉ Nat.toDigits 10 n := by
  intro hmem
  obtain ⟨d, hd, rfl⟩ := Text.exists_digitChar_of_mem_toDigits (by decide) hmem
  exact hc d hd rfl

theorem toDigits_decimal_inj {m n : Nat} (h : Nat.toDigits 10 m = Nat.toDigits 10 n) : m = n :=
  calc m
    _ = Nat.ofDigitChars 10 (Nat.toDigits 10 m) 0 := Nat.ofDigitChars_ten_toDigits.symm
    _ = Nat.ofDigitChars 10 (Nat.toDigits 10 n) 0 := by rw [h]
    _ = n := Nat.ofDigitChars_ten_toDigits

theorem Position.toList_text (p : Position) :
    p.text.toList = Nat.toDigits 10 p.line ++ ':' :: Nat.toDigits 10 p.column := by
  simp [Position.text]

theorem Position.text_inj {p q : Position} (h : p.text.toList = q.text.toList) : p = q := by
  rw [p.toList_text, q.toList_text] at h
  obtain ⟨hline, hcolumn⟩ := Text.append_cons_inj (not_mem_decimal (by decide) _)
    (not_mem_decimal (by decide) _) h
  exact congrArg₂ Position.mk (toDigits_decimal_inj hline) (toDigits_decimal_inj hcolumn)

theorem Position.hyphen_not_mem (p : Position) : '-' ∉ p.text.toList := by
  rw [p.toList_text]
  simp [not_mem_decimal (c := '-') (by decide)]

/-- **A location is read back from its written form.** -/
theorem SourceLocation.text_inj {l m : SourceLocation} (h : l.text.toList = m.text.toList) :
    l = m := by
  have htext : ∀ l : SourceLocation,
      l.text.toList = l.start.text.toList ++ '-' :: l.stop.text.toList := fun l => by
    simp [SourceLocation.text]
  rw [htext, htext] at h
  obtain ⟨hstart, hstop⟩ := Text.append_cons_inj l.start.hyphen_not_mem m.start.hyphen_not_mem h
  exact congrArg₂ SourceLocation.mk (Position.text_inj hstart) (Position.text_inj hstop)

/-! ### Kinds of tokens -/

/-- The kind of tokens with a name; a single character names itself. -/
def Tag.ofText : List Char → Tag
  | [c] => .char c
  | text =>
    let named : List Tag := [.comment, .decimalLiteral, .identifier, .keyword, .booleanLiteral,
      .stringLiteral, .regularExpressionLiteral, .operator]
    (named.find? fun tag => tag.text.toList == text).getD .eof

/-- **A kind of tokens is read back from its name.** -/
theorem Tag.ofText_text (tag : Tag) : ofText tag.text.toList = tag := by
  cases tag with
  | char c => simp [text, ofText]
  | _ => decide

/-! ### Tokens -/

/-- Numbers have a kind of their own. -/
theorem RulePiece.text?_eq_none_iff {config : Config} {rule : Rule} {raw rest : List Char}
    {form : Form} (h : RulePiece config rule raw form rest) :
    form.lexeme.text? = none ↔ form.tag = .decimalLiteral := by
  have hrule := (Rule.gives_of_read h.read_eq).rule?_eq
  cases h with
  | decimal => exact iff_of_true rfl rfl
  | _ =>
    refine iff_of_false (Option.some_ne_none _) fun htag => ?_
    dsimp only at hrule
    rw [htag] at hrule
    cases hrule

/-- A text is read back from its printed form where it is known to be a text. -/
theorem Lexeme.text?_eq_of_printedWith_eq {quote : List Char → List Char}
    (hquote : ∀ text, Text.IsQuoted text (quote text)) {l m : Lexeme}
    (hkind : l.text? = none ↔ m.text? = none) (h : l.printedWith quote = m.printedWith quote) :
    l.text? = m.text? := by
  cases l with
  | number => exact (hkind.mp rfl).symm
  | text s =>
    cases m with
    | number => exact hkind.mpr rfl
    | text s' =>
      have hsame : quote s.toList = quote s'.toList := h
      have htext := (hquote s.toList).inj (hsame ▸ hquote s'.toList)
      exact congrArg some (String.toList_injective htext)

/-- What the line of a token rests on: the name of its kind fits into a field, and its kind tells
whether its value is a number. -/
structure Token.Recordable (t : Token) : Prop where
  isField_tag : IsField t.tag.text.toList
  text?_eq_none_iff : t.lexeme.text? = none ↔ t.tag = .decimalLiteral

namespace Token

variable {quote : List Char → List Char} {t u : Token}

/-- The line of a token by its fields. -/
theorem lineWith_eq (quote : List Char → List Char) (t : Token) :
    t.lineWith quote = t.location.text.toList ++ '\t' :: (t.tag.text.toList ++
      '\t' :: (t.lexeme.printedWith quote ++ ['\n'])) := by
  simp [lineWith]

/-- **Tokens with the same line agree** in their locations, their kinds and their texts. -/
theorem fields_of_lineWith_eq (hquote : ∀ text, Text.IsQuoted text (quote text))
    (ht : t.Recordable) (hu : u.Recordable) (h : t.lineWith quote = u.lineWith quote) :
    t.location = u.location ∧ t.tag = u.tag ∧ t.lexeme.text? = u.lexeme.text? := by
  rw [lineWith_eq, lineWith_eq] at h
  -- the first tab ends the location, and the second one the kind
  obtain ⟨hlocation, h⟩ := Text.append_cons_inj t.location.isField_text.tab_not_mem
    u.location.isField_text.tab_not_mem h
  obtain ⟨htag, h⟩ := Text.append_cons_inj ht.isField_tag.tab_not_mem
    hu.isField_tag.tab_not_mem h
  have hvalue := List.append_cancel_right h
  have htag : t.tag = u.tag := by
    rw [← t.tag.ofText_text, htag, u.tag.ofText_text]
  have hkind : t.lexeme.text? = none ↔ u.lexeme.text? = none := by
    rw [ht.text?_eq_none_iff, hu.text?_eq_none_iff, htag]
  exact ⟨SourceLocation.text_inj hlocation, htag,
    Lexeme.text?_eq_of_printedWith_eq hquote hkind hvalue⟩

/-- The line of a token has three fields. -/
theorem exists_row_of_lineWith (hquote : ∀ text, Text.IsQuoted text (quote text))
    (ht : t.Recordable) :
    ∃ row, t.lineWith quote = row ++ ['\n'] ∧ '\n' ∉ row ∧ row.count '\t' = 2 ∧
      ∀ front back, '\t' ∉ front → row = front ++ '\t' :: "decimalLiteral".toList ++ '\t' :: back →
        t.lexeme.text? = none := by
  have hlocation := t.location.isField_text
  have hvalue := t.lexeme.isField_printedWith hquote
  refine ⟨_, rfl, ?_, ?_, fun front back hfront hrow => ?_⟩
  · simp [hlocation.newline_not_mem, ht.isField_tag.newline_not_mem, hvalue.newline_not_mem]
  · simp [List.count_eq_zero.mpr hlocation.tab_not_mem,
      List.count_eq_zero.mpr ht.isField_tag.tab_not_mem,
      List.count_eq_zero.mpr hvalue.tab_not_mem]
  · rw [List.append_assoc, List.append_assoc] at hrow
    obtain ⟨-, hrow⟩ := Text.append_cons_inj hlocation.tab_not_mem hfront hrow
    obtain ⟨htag, -⟩ := Text.append_cons_inj ht.isField_tag.tab_not_mem (by decide) hrow
    refine ht.text?_eq_none_iff.mpr ?_
    rw [← t.tag.ofText_text, htag]
    exact Tag.ofText_text .decimalLiteral

end Token

/-- **The tokens of a run are recordable.** -/
theorem Scanner.recordable_of_mem_run {text : String} {config : Config} {goal : Goal} {t : Token}
    (h : t ∈ ((ofString text config).run goal).tokens) : t.Recordable := by
  obtain ⟨_, _, _, form, hpiece, htag, hlexeme⟩ := exists_tokenPiece_of_mem_run h
  refine ⟨isField_tag_of_mem_run h, ?_⟩
  rw [htag, hlexeme]
  cases hpiece with
  | comment _ h => exact (h.rulePiece config).text?_eq_none_iff
  | ofHead _ _ _ h => exact h.text?_eq_none_iff

namespace CommandLine

open Scanner

/-- **The output is an unambiguous record of the tokens.** It has a line for each token that the
steps give before the end of the text or a failure. Whichever characters a quoted text hides, a line
has two tabs, and a line feed at its end alone; the kind of numbers stands in no line of a text; and
tokens with the same line, from whichever files and with whichever options, have the same location,
kind and text. -/
theorem output_records_tokens (options : Options) (file : SourceFile) :
    let run := options.scan file
    (∃ n, (steps (List.replicate (n + 1) options.goal) (file.scanner options.config)).1 =
      run.tokens.map .ok ++ [run.ending]) ∧
    (∀ t ∈ run.tokens, t.isEof = false) ∧ (∀ t, run.ending = .ok t → t.isEof = true) ∧
    (options.tokenize (.ok file)).output =
      String.ofList (run.tokens.flatMap (Token.lineWith Text.quote)) ∧
    (∀ text, Text.IsQuoted text (Text.quote text)) ∧
    ∀ quote, (∀ text, Text.IsQuoted text (quote text)) → ∀ t ∈ run.tokens,
      (∃ row, t.lineWith quote = row ++ ['\n'] ∧ '\n' ∉ row ∧ row.count '\t' = 2 ∧
        ∀ front back, '\t' ∉ front →
          row = front ++ '\t' :: "decimalLiteral".toList ++ '\t' :: back →
          t.lexeme.text? = none) ∧
      ∀ (options' : Options) (file' : SourceFile), ∀ u ∈ (options'.scan file').tokens,
        t.lineWith quote = u.lineWith quote →
          t.location = u.location ∧ t.tag = u.tag ∧ t.lexeme.text? = u.lexeme.text? := by
  intro run
  refine ⟨?_, fun t => isEof_eq_false_of_mem_run, fun t => isEof_of_run_ending, ?_,
    Text.isQuoted_quote, fun quote hquote t ht => ⟨?_, fun options' file' u hu h => ?_⟩⟩
  · obtain ⟨n, hn⟩ := exists_steps_eq_run options.goal (file.scanner options.config)
    exact ⟨n, congrArg Prod.fst hn⟩
  · rw [Options.output_tokenize, funext Token.lineWith_quote]
  · exact Token.exists_row_of_lineWith hquote (recordable_of_mem_run ht)
  · exact Token.fields_of_lineWith_eq hquote (recordable_of_mem_run ht)
      (recordable_of_mem_run hu) h

end CommandLine

end EcmaLex
