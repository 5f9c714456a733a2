import EcmaLex.Grammar.Kind

/-!
# Closed and unclosed constructs

A block comment, a string literal and a regular expression literal run up to a closing delimiter.
For each the text up to the delimiter is characterized without the search that finds it: the body
of a block comment holds no closing delimiter, not even one that reuses its last asterisk; the body
of a string is a sequence of plain characters and of backslashes with a character behind them; the
body of a regular expression holds no slash. A construct is unclosed when the text behind its
opening delimiter has no such body with a closing delimiter behind it.

## Main definitions

* `EcmaLex.Grammar.StringUnit.Fits` : the units that can stand between two quotes.
* `EcmaLex.Unclosed` : texts that open a construct and do not close it.

## Main results

* `EcmaLex.Grammar.blockText?_eq_some_iff`, `EcmaLex.Grammar.stringUnits?_eq_some_iff` : what is
  found in front of the closing delimiter.
* `EcmaLex.Rule.unclosed_of_read` : a rule that applies fails only at an unclosed construct.
-/

namespace EcmaLex

namespace Grammar

/-! ### Block comments -/

/-- The delimiter that closes a block comment. -/
def blockClose : List Char := ['*', '/']

theorem startsBlockClose_iff {text : List Char} :
    startsBlockClose text = true ↔ blockClose <+: text := by
  unfold startsBlockClose blockClose
  split
  · simp
  · rename_i hno
    refine iff_of_false Bool.false_ne_true fun h => ?_
    obtain ⟨rest, rfl⟩ := h
    exact hno rest rfl

theorem startsBlockComment_iff {text : List Char} :
    startsBlockComment text = true ↔ ∃ rest, text = '/' :: '*' :: rest := by
  unfold startsBlockComment
  split <;> simp_all

theorem startsLineComment_iff {text : List Char} :
    startsLineComment text = true ↔ ∃ rest, text = '/' :: '/' :: rest := by
  unfold startsLineComment
  split <;> simp_all

theorem blockText?_eq_none_iff {text : List Char} :
    blockText? text = none ↔ ¬ blockClose <:+: text := by
  induction text with
  | nil => simp [blockText?, blockClose]
  | cons c rest ih =>
    rw [blockText?, List.infix_cons_iff, ← startsBlockClose_iff]
    split
    · simp_all
    · rw [Option.map_eq_none_iff, ih]
      simp_all

/-- The text before the first closing delimiter is the one that a delimiter follows and that holds
none, also none made with the asterisk of the one that follows. -/
theorem blockText?_eq_some_iff {text body : List Char} :
    blockText? text = some body ↔
      (∃ rest, text = body ++ blockClose ++ rest) ∧ ¬ blockClose <:+: body ++ ['*'] := by
  induction text generalizing body with
  | nil => simp [blockText?, blockClose]
  | cons c rest ih =>
    rw [blockText?]
    split
    · rename_i hclose
      rw [startsBlockClose_iff] at hclose
      obtain ⟨more, hmore⟩ := hclose
      refine ⟨fun h => ?_, fun ⟨⟨after, hafter⟩, hno⟩ => ?_⟩
      · obtain rfl := Option.some.inj h
        refine ⟨⟨more, hmore.symm⟩, fun hin => ?_⟩
        have hlen := hin.length_le
        simp [blockClose] at hlen
      · cases body with
        | nil => rfl
        | cons b body =>
          -- a longer body would start with the delimiter that stands here
          refine absurd (List.IsPrefix.isInfix ?_) hno
          refine List.prefix_of_prefix_length_le ⟨more, hmore⟩ ⟨'/' :: after, ?_⟩ ?_
          · rw [hafter]
            simp [blockClose]
          · simp [blockClose]
    · rename_i hopen
      rw [startsBlockClose_iff] at hopen
      rw [Option.map_eq_some_iff]
      refine ⟨?_, fun ⟨⟨after, hafter⟩, hno⟩ => ?_⟩
      · rintro ⟨body, hbody, rfl⟩
        obtain ⟨⟨after, rfl⟩, hno⟩ := ih.mp hbody
        refine ⟨⟨after, rfl⟩, fun hin => ?_⟩
        rw [List.cons_append, List.infix_cons_iff] at hin
        refine hin.elim (fun hpre => hopen (hpre.trans ⟨'/' :: after, ?_⟩)) hno
        simp [blockClose]
      · cases body with
        | nil => exact absurd ⟨after, hafter.symm⟩ hopen
        | cons b body =>
          obtain ⟨rfl, rfl⟩ := List.cons.inj hafter
          refine ⟨body, ih.mpr ⟨⟨after, rfl⟩, fun hin => hno ?_⟩, rfl⟩
          rw [List.cons_append]
          exact List.infix_cons hin

/-! ### Strings -/

/-- Whether a unit can stand between two quotes: a character by itself is neither the quote nor a
backslash. -/
def StringUnit.Fits (quote : Char) : StringUnit → Prop
  | plain c => c ≠ quote ∧ c ≠ '\\'
  | escaped _ => True

@[simp] theorem stringUnits?_quote (quote : Char) (text : List Char) :
    stringUnits? quote (quote :: text) = some [] := by
  cases text <;> simp [stringUnits?]

theorem stringUnits?_plain {quote c : Char} (h : c ≠ quote ∧ c ≠ '\\') (text : List Char) :
    stringUnits? quote (c :: text) = (stringUnits? quote text).map (.plain c :: ·) := by
  cases text <;> simp [stringUnits?, h]

theorem stringUnits?_escaped {quote : Char} (h : quote ≠ '\\') (c : Char) (text : List Char) :
    stringUnits? quote ('\\' :: c :: text) = (stringUnits? quote text).map (.escaped c :: ·) := by
  simp [stringUnits?, h.symm]

/-- Units that fit are found in front of a quote. -/
theorem stringUnits?_append {quote : Char} (hquote : quote ≠ '\\') {units : List StringUnit}
    (h : ∀ u ∈ units, u.Fits quote) (rest : List Char) :
    stringUnits? quote (units.flatMap StringUnit.source ++ quote :: rest) = some units := by
  induction units with
  | nil => exact stringUnits?_quote quote rest
  | cons u units ih =>
    obtain ⟨hu, hunits⟩ := List.forall_mem_cons.mp h
    cases u with
    | plain c =>
      rw [List.flatMap_cons, List.append_assoc, StringUnit.source, List.singleton_append,
        stringUnits?_plain hu, ih hunits, Option.map_some]
    | escaped c =>
      rw [List.flatMap_cons, List.append_assoc, StringUnit.source, List.cons_append,
        List.singleton_append, stringUnits?_escaped hquote, ih hunits, Option.map_some]

/-- The units that are found fit, and a quote follows them. -/
theorem fits_of_stringUnits? {quote : Char} {text : List Char} {units : List StringUnit}
    (h : stringUnits? quote text = some units) :
    (∀ u ∈ units, u.Fits quote) ∧
      ∃ rest, text = units.flatMap StringUnit.source ++ quote :: rest := by
  fun_induction stringUnits? quote text generalizing units with
  | case1 => cases h
  | case2 =>
    cases h
    exact ⟨List.forall_mem_nil _, [], rfl⟩
  | case3 => cases h
  | case4 d rest =>
    cases h
    exact ⟨List.forall_mem_nil _, d :: rest, rfl⟩
  | case5 d rest _ ih =>
    obtain ⟨units, hunits, rfl⟩ := Option.map_eq_some_iff.mp h
    obtain ⟨hfit, after, rfl⟩ := ih hunits
    exact ⟨List.forall_mem_cons.mpr ⟨trivial, hfit⟩, after, rfl⟩
  | case6 c d rest hc hc' ih =>
    obtain ⟨units, hunits, rfl⟩ := Option.map_eq_some_iff.mp h
    obtain ⟨hfit, after, hafter⟩ := ih hunits
    exact ⟨List.forall_mem_cons.mpr ⟨⟨hc, hc'⟩, hfit⟩, after, congrArg (c :: ·) hafter⟩

/-- The units before the first unescaped quote are those that fit and that a quote follows. -/
theorem stringUnits?_eq_some_iff {quote : Char} (hquote : quote ≠ '\\') {text : List Char}
    {units : List StringUnit} :
    stringUnits? quote text = some units ↔
      (∀ u ∈ units, u.Fits quote) ∧
        ∃ rest, text = units.flatMap StringUnit.source ++ quote :: rest := by
  refine ⟨fits_of_stringUnits?, ?_⟩
  rintro ⟨hfit, rest, rfl⟩
  exact stringUnits?_append hquote hfit rest

theorem ne_backslash_of_isQuote {c : Char} (h : isQuote c = true) : c ≠ '\\' := by
  rintro rfl
  cases h

end Grammar

/-! ### Unclosed constructs -/

/-- A text opens a construct and does not close it: a quote, where the text behind it cannot be read
as units that fit with the quote behind them; a slash with no slash behind it; or a slash and an
asterisk with no closing delimiter behind them. -/
inductive Unclosed : Delimited → List Char → Prop
  | string {quote : Char} {body : List Char} (hquote : isQuote quote = true)
      (hopen : ∀ (units : List Grammar.StringUnit) (rest : List Char),
        (∀ u ∈ units, u.Fits quote) →
          body ≠ units.flatMap Grammar.StringUnit.source ++ quote :: rest) :
      Unclosed .string (quote :: body)
  | regularExpression {body : List Char} (hopen : '/' ∉ body) :
      Unclosed .regularExpression ('/' :: body)
  | blockComment {body : List Char} (hopen : ¬ Grammar.blockClose <:+: body) :
      Unclosed .blockComment ('/' :: '*' :: body)

/-- The rule that reads a construct. -/
def Delimited.rule : Delimited → Rule
  | string => .string
  | regularExpression => .regularExpression
  | blockComment => .comment

variable {config : Config}

theorem unclosed_of_blockComment {text : List Char} {construct : Delimited}
    (hstart : Grammar.startsBlockComment text = true)
    (h : Grammar.blockComment text = .error construct) :
    construct = .blockComment ∧ Unclosed .blockComment text := by
  obtain ⟨rest, rfl⟩ := Grammar.startsBlockComment_iff.mp hstart
  unfold Grammar.blockComment at h
  split at h
  · cases h
  · rename_i hnone
    cases h
    exact ⟨rfl, .blockComment (Grammar.blockText?_eq_none_iff.mp hnone)⟩

/-- **A rule that applies fails only at an unclosed construct**, one that it is the rule for. -/
theorem Rule.unclosed_of_read {rule : Rule} {text : List Char} {construct : Delimited}
    (hstart : rule.starts config text = true) (h : rule.read config text = .error construct) :
    rule = construct.rule ∧ Unclosed construct text := by
  cases rule with
  | comment =>
    have hread := Finding.eq_error_of_map h
    rw [Grammar.comment] at hread
    split at hread
    · rename_i hblock
      obtain ⟨rfl, hopen⟩ := unclosed_of_blockComment hblock hread
      exact ⟨rfl, hopen⟩
    · cases hread
  | string =>
    have hread := Finding.eq_error_of_map h
    cases text with
    | nil => exact absurd rfl (Rule.ne_nil_of_starts hstart)
    | cons quote body =>
      have hquote : isQuote quote = true := hstart
      rw [Grammar.stringLiteral] at hread
      split at hread
      · cases hread
      · rename_i hnone
        cases hread
        refine ⟨rfl, .string hquote fun units rest hfit hbody => ?_⟩
        rw [hbody, Grammar.stringUnits?_append (Grammar.ne_backslash_of_isQuote hquote) hfit]
          at hnone
        cases hnone
  | regularExpression =>
    have hread := Finding.eq_error_of_map h
    cases text with
    | nil => exact absurd rfl (Rule.ne_nil_of_starts hstart)
    | cons c body =>
      obtain ⟨hc, -⟩ := Bool.and_eq_true_iff.mp hstart
      obtain rfl : c = '/' := by simpa using hc
      rw [Grammar.regularExpression] at hread
      split at hread
      · cases hread
      · rename_i hnone
        cases hread
        exact ⟨rfl, .regularExpression (List.idxOf?_eq_none_iff.mp hnone)⟩
  | decimal => cases h
  | word => cases h
  | operator => cases h
  | single => cases h

end EcmaLex
