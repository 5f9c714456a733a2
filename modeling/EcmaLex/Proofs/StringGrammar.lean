import EcmaLex.Proofs.RuleContract

/-!
# The grammar of string literals

Behind its opening quote a string literal is a sequence of units, each a character other than the
quote and the backslash or a backslash with any character behind it, and then the same quote again.
A text has at most one beginning of this form. The rule for strings succeeds where there is one and
decodes the units, whether they hold line terminators, the other quote or backslashes in a row; it
fails at the end of the text where there is none, also where the last backslash has nothing behind
it.

Every text can be written as a string with either quote: with a backslash in front of each quote of
this kind and of each backslash it is read back unchanged.

## Main definitions

* `EcmaLex.Grammar.StringParts` : the text behind an opening quote, in its parts.
* `EcmaLex.Grammar.escapedFor` : a text with a backslash in front of quotes and backslashes.

## Main results

* `EcmaLex.Grammar.StringParts.unique` : a text has these parts in one way only.
* `EcmaLex.Grammar.stringParts_escapedFor` : an escaped text is read as the text.
* `EcmaLex.Cursor.strings_match_grammar` : the rule for strings finds the parts and decodes them.
-/

namespace EcmaLex

namespace Grammar

/-- The text behind an opening quote falls into units that fit, the quote that closes the string,
and what is behind it. -/
structure StringParts (quote : Char) (text : List Char) (units : List StringUnit)
    (rest : List Char) : Prop where
  fits : ∀ u ∈ units, u.Fits quote
  text_eq : text = units.flatMap StringUnit.source ++ quote :: rest

variable {quote : Char} {text rest : List Char} {units : List StringUnit}

theorem StringParts.stringUnits?_eq (h : StringParts quote text units rest)
    (hquote : isQuote quote = true) : stringUnits? quote text = some units := by
  rw [h.text_eq]
  exact stringUnits?_append (ne_backslash_of_isQuote hquote) h.fits rest

/-- **A text has the parts of a string in one way only.** -/
theorem StringParts.unique {units' : List StringUnit} {rest' : List Char}
    (h : StringParts quote text units rest) (h' : StringParts quote text units' rest')
    (hquote : isQuote quote = true) : units' = units ∧ rest' = rest := by
  have hunits : units' = units :=
    Option.some.inj ((h'.stringUnits?_eq hquote).symm.trans (h.stringUnits?_eq hquote))
  subst hunits
  have hbehind := List.append_cancel_left (h'.text_eq.symm.trans h.text_eq)
  exact ⟨rfl, (List.cons.inj hbehind).2⟩

/-- The rule for strings reads the quotes and the units between them. -/
theorem StringParts.read_eq (h : StringParts quote text units rest)
    (hquote : isQuote quote = true) (config : Config) :
    (Kind.ofRule .string).read config (quote :: text) =
      .ok ⟨(quote :: (units.flatMap StringUnit.source ++ [quote])).length,
        some (.string ⟨quote, units⟩)⟩ := by
  have hpiece : RulePiece config .string
      (quote :: (units.flatMap StringUnit.source ++ [quote])) (.string ⟨quote, units⟩) rest :=
    .string (s := ⟨quote, units⟩) hquote h.fits
  have htext : quote :: text = quote :: (units.flatMap StringUnit.source ++ [quote]) ++ rest := by
    rw [h.text_eq]
    simp
  rw [Kind.read, htext, hpiece.read_eq]
  rfl

/-- A text without such parts is not closed. -/
theorem read_of_forall_not_stringParts (h : ¬ ∃ units rest, StringParts quote text units rest)
    (config : Config) :
    (Kind.ofRule .string).read config (quote :: text) = .error .string := by
  have hnone : stringUnits? quote text = none := by
    refine Option.eq_none_iff_forall_ne_some.mpr fun units hunits => h ?_
    obtain ⟨hfits, rest, htext⟩ := fits_of_stringUnits? hunits
    exact ⟨units, rest, hfits, htext⟩
  rw [Kind.read, Rule.read, stringLiteral, hnone]
  rfl

/-! ### Escaped texts -/

/-- A text with a backslash in front of every `quote` and of every backslash. -/
def escapedFor (quote : Char) (text : List Char) : List Char :=
  text.flatMap fun c => if c = quote ∨ c = '\\' then ['\\', c] else [c]

/-- The unit that writes a character in an escaped text. -/
def StringUnit.writing (quote c : Char) : StringUnit :=
  if c = quote ∨ c = '\\' then .escaped c else .plain c

namespace StringUnit

variable {c : Char}

theorem source_writing : (writing quote c).source =
    if c = quote ∨ c = '\\' then ['\\', c] else [c] := by
  unfold writing
  split <;> rfl

theorem fits_writing (quote c : Char) : (writing quote c).Fits quote := by
  unfold writing
  split
  · trivial
  · rename_i hplain
    exact not_or.mp hplain

theorem unescape_of_isQuote (hquote : isQuote quote = true) : unescape quote = quote := by
  simp only [isQuote, Bool.or_eq_true, beq_iff_eq] at hquote
  rcases hquote with rfl | rfl <;> rfl

/-- Neither quotes nor backslashes change their meaning behind a backslash. -/
theorem value_writing (hquote : isQuote quote = true) (c : Char) :
    (writing quote c).value = c := by
  unfold writing
  split
  · rename_i hescaped
    rcases hescaped with rfl | rfl
    · exact unescape_of_isQuote hquote
    · rfl
  · rfl

end StringUnit

/-- **An escaped text between quotes is read as the text.** -/
theorem stringParts_escapedFor (hquote : isQuote quote = true) (value rest : List Char) :
    StringParts quote (escapedFor quote value ++ quote :: rest)
        (value.map (StringUnit.writing quote)) rest ∧
      (value.map (StringUnit.writing quote)).map StringUnit.value = value := by
  refine ⟨⟨fun u hu => ?_, ?_⟩, ?_⟩
  · obtain ⟨c, -, rfl⟩ := List.mem_map.mp hu
    exact StringUnit.fits_writing quote c
  · rw [List.flatMap_map, escapedFor]
    simp only [StringUnit.source_writing]
  · rw [List.map_map]
    exact List.map_id'' (StringUnit.value_writing hquote) value

end Grammar

namespace Cursor

open Grammar

variable {config : Config} {k : Cursor} {quote : Char} {text rest : List Char}
  {units : List StringUnit}

theorem lexesAs_of_stringParts (hquote : isQuote quote = true) (hrest : k.rest = quote :: text)
    (hparts : StringParts quote text units rest) :
    k.LexesAs config (.ofRule .string) (quote :: (units.flatMap StringUnit.source ++ [quote]))
        (some (.string ⟨quote, units⟩)) ∧
      (k.lex config (.ofRule .string)).2.rest = rest := by
  refine lexesAs_of_read ?_ ?_
  · rw [hrest, hparts.text_eq]
    simp
  · rw [hrest]
    exact hparts.read_eq hquote config

theorem lexFails_of_forall_not_stringParts (hrest : k.rest = quote :: text)
    (h : ¬ ∃ units rest, StringParts quote text units rest) :
    k.LexFails config (.ofRule .string) .string := by
  refine lexFails_of_read ?_
  rw [hrest]
  exact read_of_forall_not_stringParts h config

/-- **The rule for strings finds the strings of the grammar and decodes them.** Where a cursor has
a quote ahead, the rule succeeds if and only if units and the same quote stand behind it. These
parts are then unique, and the rule passes them and nothing of the rest; the literal has the quote,
and its value is what the units stand for. Without such parts the rule fails where the quote is and
passes all there is. Every text, escaped and put between quotes, is read back in front of
anything. -/
theorem strings_match_grammar (config : Config) (k : Cursor) {quote : Char} {text : List Char}
    (hquote : isQuote quote = true) (hrest : k.rest = quote :: text) :
    let kind : Kind := .ofRule .string
    ((∃ lexed, (k.lex config kind).1 = .ok lexed) ↔
      ∃ units rest, StringParts quote text units rest) ∧
    (∀ units rest, StringParts quote text units rest →
      (∀ units' rest', StringParts quote text units' rest' → units' = units ∧ rest' = rest) ∧
      ∃ s : StringLiteral, s.quote = quote ∧ s.value = units.map StringUnit.value ∧
        k.LexesAs config kind (quote :: (units.flatMap StringUnit.source ++ [quote]))
          (some (.string s)) ∧
        (k.lex config kind).2.rest = rest) ∧
    ((¬ ∃ units rest, StringParts quote text units rest) → k.LexFails config kind .string) ∧
    ∀ value rest, text = escapedFor quote value ++ quote :: rest →
      ∃ s : StringLiteral, s.quote = quote ∧ s.value = value ∧
        k.LexesAs config kind (quote :: (escapedFor quote value ++ [quote])) (some (.string s)) ∧
        (k.lex config kind).2.rest = rest := by
  intro kind
  refine ⟨⟨?_, ?_⟩, ?_, lexFails_of_forall_not_stringParts hrest, ?_⟩
  · rintro ⟨lexed, hok⟩
    by_cases hparts : ∃ units rest, StringParts quote text units rest
    · exact hparts
    · cases hok.symm.trans (lexFails_of_forall_not_stringParts hrest hparts).result_eq
  · rintro ⟨units, rest, hparts⟩
    exact ⟨_, (lexesAs_of_stringParts hquote hrest hparts).1.result_eq⟩
  · intro units rest hparts
    refine ⟨fun units' rest' hparts' => hparts.unique hparts' hquote, ⟨quote, units⟩, rfl, rfl, ?_⟩
    exact lexesAs_of_stringParts hquote hrest hparts
  · rintro value rest rfl
    obtain ⟨hparts, hvalue⟩ := stringParts_escapedFor hquote value rest
    have hsource : (value.map (StringUnit.writing quote)).flatMap StringUnit.source =
        escapedFor quote value := List.append_cancel_right hparts.text_eq.symm
    refine ⟨⟨quote, value.map (StringUnit.writing quote)⟩, rfl, hvalue, ?_⟩
    rw [← hsource]
    exact lexesAs_of_stringParts hquote hrest hparts

/-- A string with an escaped quote, a letter that stands for a line feed, and a backslash in front
of the closing quote that is itself escaped. -/
theorem string_with_escapes_in_a_row :
    let k := (ofString "='é\\'\\n\\\\'!").advance 1
    isQuote '\'' = true ∧ k.rest = '\'' :: "é\\'\\n\\\\'!".toList ∧
      ∃ s : StringLiteral, s.value = "é'\n\\".toList ∧
        k.LexesAs {} (.ofRule .string) "'é\\'\\n\\\\'".toList (some (.string s)) ∧
        (k.lex {} (.ofRule .string)).2.rest = ['!'] := by
  intro k
  have hparts : StringParts '\'' "é\\'\\n\\\\'!".toList
      [.plain 'é', .escaped '\'', .escaped 'n', .escaped '\\'] ['!'] :=
    ⟨by simp [StringUnit.Fits], by decide⟩
  obtain ⟨-, s, -, hvalue, hlex⟩ := (strings_match_grammar {} k rfl rfl).2.1 _ _ hparts
  exact ⟨rfl, rfl, s, hvalue, hlex⟩

end Cursor

end EcmaLex
