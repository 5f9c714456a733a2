import EcmaLex.Proofs.RuleReadings
import Mathlib.Data.List.TakeWhile

/-!
# Pieces of text that the rules read

What a rule reads can be told without the search that reads it: a run of characters of one class
that something else follows, a body between its delimiters, a single character. All that a rule
asks of the text behind such a piece is asked of its first character, and the end of the text is
always good enough. So a piece stays one when the text behind it is cut off, or when a line
terminator is put there that neither a word nor an operator goes on with.

## Main definitions

* `EcmaLex.Grammar.CommentPiece` : a comment in front of a text.
* `EcmaLex.RulePiece` : what a rule reads in front of a text.
* `EcmaLex.Config.IsBreak` : the characters in front of which everything ends.

## Main results

* `EcmaLex.RulePiece.read_eq`, `EcmaLex.Rule.exists_piece_of_read` : the pieces are what a rule
  reads where it applies.
* `EcmaLex.RulePiece.congr` : a piece stays one in front of another text.
-/

namespace EcmaLex

/-! ### Longest runs -/

namespace Text

variable {p : Char → Bool} {run rest text : List Char}

theorem exists_cons_of_head?_any (h : text.head?.any p = true) :
    ∃ c rest, text = c :: rest ∧ p c = true := by
  cases text with
  | nil => cases h
  | cons c rest => exact ⟨c, rest, rfl, h⟩

theorem takeWhile_append_eq (hrun : ∀ c ∈ run, p c = true) (hrest : ∀ c ∈ rest.head?, p c = false) :
    (run ++ rest).takeWhile p = run := by
  rw [List.takeWhile_append_of_pos hrun]
  cases rest with
  | nil => simp
  | cons c rest => simp [hrest c rfl]

/-- The longest run at the front of a text is the one that something else follows. -/
theorem takeWhile_eq_iff :
    text.takeWhile p = run ↔
      ∃ rest, text = run ++ rest ∧ (∀ c ∈ run, p c = true) ∧ ∀ c ∈ rest.head?, p c = false := by
  constructor
  · rintro rfl
    refine ⟨text.dropWhile p, List.takeWhile_append_dropWhile.symm,
      fun _ => List.mem_takeWhile_imp, fun c hc => ?_⟩
    have hstop := List.head?_dropWhile_not p text
    rw [Option.mem_def.mp hc] at hstop
    exact hstop
  · rintro ⟨rest, rfl, hrun, hrest⟩
    exact takeWhile_append_eq hrun hrest

/-- A text falls into the longest run at its front and what is behind it. -/
theorem exists_longest_run (p : Char → Bool) (text : List Char) :
    ∃ run rest, text = run ++ rest ∧ text.takeWhile p = run ∧ (∀ c ∈ run, p c = true) ∧
      ∀ c ∈ rest.head?, p c = false := by
  obtain ⟨rest, htext, hrun, hrest⟩ := takeWhile_eq_iff.mp (Eq.refl (text.takeWhile p))
  exact ⟨_, rest, htext, rfl, hrun, hrest⟩

/-! ### First occurrences -/

theorem idxOf?_append_cons {c : Char} {body : List Char} (hbody : c ∉ body) (rest : List Char) :
    (body ++ c :: rest).idxOf? c = some body.length := by
  induction body with
  | nil => simp [List.idxOf?_cons]
  | cons d body ih =>
    obtain ⟨hd, hbody⟩ := List.ne_and_not_mem_of_not_mem_cons hbody
    simp [List.idxOf?_cons, ih hbody, hd.symm]

/-- The first occurrence of a character is behind a body that does not hold it. -/
theorem exists_eq_append_cons_of_idxOf? {c : Char} {n : Nat} (h : text.idxOf? c = some n) :
    ∃ body rest, text = body ++ c :: rest ∧ body.length = n ∧ c ∉ body := by
  have hmem : c ∈ text := by
    refine Decidable.byContradiction fun hno => ?_
    rw [List.idxOf?_eq_none_iff.mpr hno] at h
    cases h
  obtain ⟨body, rest, rfl, hbody⟩ := List.eq_append_cons_of_mem hmem
  rw [idxOf?_append_cons hbody] at h
  exact ⟨body, rest, rfl, Option.some.inj h, hbody⟩

end Text

/-! ### Comments -/

namespace Grammar

/-- A comment in front of a text. A line comment goes up to the end of its line or of the text, and
a block comment up to the first delimiter that closes it. -/
inductive CommentPiece : List Char → Comment → List Char → Prop
  | line {body rest : List Char} (hbody : ∀ c ∈ body, isLineTerminator c = false)
      (hrest : ∀ c ∈ rest.head?, isLineTerminator c = true) :
      CommentPiece ('/' :: '/' :: body) ⟨false, body⟩ rest
  | block {body rest : List Char} (hbody : ¬ blockClose <:+: body ++ ['*']) :
      CommentPiece ('/' :: '*' :: (body ++ blockClose)) ⟨true, body⟩ rest

namespace CommentPiece

variable {raw rest : List Char} {c : Comment}

theorem startsComment (h : CommentPiece raw c rest) : startsComment (raw ++ rest) = true := by
  cases h with
  | line => rfl
  | block => rfl

/-- The rule for comments reads the piece and no more. -/
theorem comment_eq (h : CommentPiece raw c rest) : comment (raw ++ rest) = .ok ⟨raw.length, c⟩ := by
  cases h with
  | @line body _ hbody hrest =>
    have hrun : (body ++ rest).takeWhile (fun c => !isLineTerminator c) = body :=
      Text.takeWhile_append_eq (fun c hc => by simp [hbody c hc]) fun c hc => by simp [hrest c hc]
    rw [List.cons_append, List.cons_append, comment_line, hrun, List.length_cons, List.length_cons,
      Nat.add_comm 2]
  | @block body _ hbody =>
    have hfound : blockText? (body ++ blockClose ++ rest) = some body :=
      blockText?_eq_some_iff.mpr ⟨⟨rest, rfl⟩, hbody⟩
    rw [List.cons_append, List.cons_append, comment_block, hfound]
    simp [blockClose, Nat.add_comm, Nat.add_left_comm]

end CommentPiece

/-- What the rule for comments reads where a comment is ahead. -/
theorem exists_commentPiece {text : List Char} {r : Reading Comment}
    (hstart : startsComment text = true) (h : comment text = .ok r) :
    ∃ raw rest, text = raw ++ rest ∧ raw.length = r.length ∧ CommentPiece raw r.value rest := by
  obtain hblock | hline := Bool.or_eq_true_iff.mp hstart
  · obtain ⟨text, rfl⟩ := startsBlockComment_iff.mp hblock
    rw [comment_block] at h
    split at h
    · rename_i body hbody
      cases h
      obtain ⟨⟨rest, rfl⟩, hno⟩ := blockText?_eq_some_iff.mp hbody
      refine ⟨_, rest, rfl, ?_, .block hno⟩
      simp [blockClose, Nat.add_comm, Nat.add_left_comm]
    · cases h
  · obtain ⟨text, rfl⟩ := startsLineComment_iff.mp hline
    rw [comment_line] at h
    obtain ⟨body, rest, rfl, hrun, hbody, hrest⟩ :=
      Text.exists_longest_run (fun c => !isLineTerminator c) text
    rw [hrun] at h
    cases h
    refine ⟨'/' :: '/' :: body, rest, rfl, Nat.add_comm _ 2, .line ?_ ?_⟩
    · exact fun c hc => by simpa using hbody c hc
    · exact fun c hc => by simpa using hrest c hc

/-! ### Regular expressions -/

theorem regularExpression_eq {body : List Char} (hbody : '/' ∉ body) (rest : List Char) :
    regularExpression ('/' :: (body ++ ['/']) ++ rest) =
      .ok ⟨('/' :: (body ++ ['/'])).length, '/' :: (body ++ ['/'])⟩ := by
  have hlen : ('/' :: (body ++ ['/'])).length = 1 + body.length + 1 := by simp [Nat.add_comm]
  have hfound : (('/' :: (body ++ ['/']) ++ rest).drop 1).idxOf? '/' = some body.length := by
    simpa using Text.idxOf?_append_cons hbody rest
  rw [regularExpression, hfound, hlen]
  simp only [List.take_left' hlen]

/-- A regular expression is found where a slash closes it. -/
theorem exists_of_regularExpression_cons {c : Char} {text : List Char} {r : Reading (List Char)}
    (h : regularExpression (c :: text) = .ok r) :
    ∃ body rest, text = body ++ '/' :: rest ∧ '/' ∉ body := by
  rw [regularExpression, List.drop_succ_cons, List.drop_zero] at h
  split at h
  · rename_i n hn
    obtain ⟨body, rest, htext, -, hbody⟩ := Text.exists_eq_append_cons_of_idxOf? hn
    exact ⟨body, rest, htext, hbody⟩
  · cases h

end Grammar

/-! ### Pieces -/

/-- What a rule reads, and what the piece stands for, in front of a text. Digits, words and
operators go on as far as there are characters for it. A string is a quote, units that fit, and the
same quote, and a regular expression is a slash, something without slashes, and a slash. -/
inductive RulePiece (config : Config) : Rule → List Char → Form → List Char → Prop
  | comment {raw rest : List Char} {c : Grammar.Comment} (h : Grammar.CommentPiece raw c rest) :
      RulePiece config .comment raw (.comment c) rest
  | decimal {digits rest : List Char} (hne : digits ≠ []) (hdigits : ∀ c ∈ digits, isDigit c = true)
      (hrest : ∀ c ∈ rest.head?, isDigit c = false) :
      RulePiece config .decimal digits (.decimal (Grammar.decimalValue digits)) rest
  | word {c : Char} {run rest : List Char} (hstart : config.isWordStart c = true)
      (hrun : ∀ d ∈ run, config.isWordPart d = true)
      (hrest : ∀ d ∈ rest.head?, config.isWordPart d = false) :
      RulePiece config .word (c :: run)
        (.word (c :: run) (Grammar.wordTag config (String.ofList (c :: run)))) rest
  | string {s : Grammar.StringLiteral} {rest : List Char} (hquote : isQuote s.quote = true)
      (hunits : ∀ u ∈ s.units, u.Fits s.quote) :
      RulePiece config .string (s.quote :: (s.body ++ [s.quote])) (.string s) rest
  | regularExpression {body rest : List Char} (hne : body ≠ []) (hbody : '/' ∉ body) :
      RulePiece config .regularExpression ('/' :: (body ++ ['/']))
        (.regularExpression ('/' :: (body ++ ['/']))) rest
  | operator {run rest : List Char} (hne : run ≠ [])
      (hrun : ∀ c ∈ run, config.isOperatorChar c = true)
      (hrest : ∀ c ∈ rest.head?, config.isOperatorChar c = false) :
      RulePiece config .operator run (.operator run) rest
  | single {c : Char} {rest : List Char} : RulePiece config .single [c] (.single c) rest

variable {config : Config} {rule : Rule} {raw rest text : List Char} {form : Form}

/-- The rule for comments is the same in every configuration. -/
theorem Grammar.CommentPiece.rulePiece {c : Comment} (h : CommentPiece raw c rest)
    (config : Config) : RulePiece config .comment raw (.comment c) rest := .comment h

namespace RulePiece

theorem ne_nil (h : RulePiece config rule raw form rest) : raw ≠ [] := by
  cases h with
  | comment h => cases h <;> simp
  | decimal hne => exact hne
  | operator hne => exact hne
  | word => simp
  | string => simp
  | regularExpression => simp
  | single => simp

/-- The rule reads the piece and no more. -/
theorem read_eq (h : RulePiece config rule raw form rest) :
    rule.read config (raw ++ rest) = .ok ⟨raw.length, form⟩ := by
  cases h with
  | comment h =>
    rw [Rule.read, h.comment_eq]
    rfl
  | decimal _ hdigits hrest =>
    rw [Rule.read, Grammar.decimal, Text.takeWhile_append_eq hdigits hrest]
    rfl
  | @word c run _ _ hrun hrest =>
    have hword : Grammar.word config (c :: run ++ rest) = ⟨(c :: run).length, c :: run⟩ := by
      rw [Grammar.word, List.cons_append, List.drop_succ_cons, List.drop_zero,
        Text.takeWhile_append_eq hrun hrest]
      rfl
    rw [Rule.read, hword]
    rfl
  | @string s _ hquote hunits =>
    have hfound : Grammar.stringUnits? s.quote (s.body ++ s.quote :: rest) = some s.units :=
      Grammar.stringUnits?_append (Grammar.ne_backslash_of_isQuote hquote) hunits rest
    have hread : Grammar.stringLiteral (s.quote :: (s.body ++ [s.quote]) ++ rest) =
        .ok ⟨1 + s.body.length + 1, s⟩ := by
      rw [List.cons_append, List.append_assoc, List.singleton_append, Grammar.stringLiteral, hfound]
    rw [Rule.read, hread]
    simp [Except.map, Reading.map, Nat.add_comm]
  | @regularExpression body _ _ hbody =>
    rw [Rule.read, Grammar.regularExpression_eq hbody]
    rfl
  | operator _ hrun hrest =>
    rw [Rule.read, Grammar.operator, Text.takeWhile_append_eq hrun hrest]
    rfl
  | single => rfl

end RulePiece

/-- What a rule reads where it applies. -/
theorem Rule.exists_piece_of_read {r : Reading Form} (hstart : rule.starts config text = true)
    (hread : rule.read config text = .ok r) :
    ∃ raw rest, text = raw ++ rest ∧ raw.length = r.length ∧
      RulePiece config rule raw r.value rest := by
  cases rule with
  | comment =>
    obtain ⟨s, hs, rfl⟩ := Finding.exists_of_map_eq_ok hread
    obtain ⟨raw, rest, htext, hlen, hpiece⟩ := Grammar.exists_commentPiece hstart hs
    exact ⟨raw, rest, htext, hlen, .comment hpiece⟩
  | decimal =>
    obtain ⟨c, text, rfl, hc⟩ := Text.exists_cons_of_head?_any hstart
    obtain ⟨digits, rest, htext, hrun, hdigits, hrest⟩ :=
      Text.exists_longest_run isDigit (c :: text)
    have hne : digits ≠ [] := by
      rw [← hrun]
      simp [hc]
    rw [Rule.read, Grammar.decimal, hrun] at hread
    cases hread
    exact ⟨digits, rest, htext, rfl, .decimal hne hdigits hrest⟩
  | word =>
    obtain ⟨c, text, rfl, hc⟩ := Text.exists_cons_of_head?_any hstart
    obtain ⟨run, rest, rfl, hfound, hrun, hrest⟩ := Text.exists_longest_run config.isWordPart text
    have hword : Grammar.word config (c :: (run ++ rest)) = ⟨(c :: run).length, c :: run⟩ := by
      rw [Grammar.word, List.drop_succ_cons, List.drop_zero, hfound]
      rfl
    rw [Rule.read, hword] at hread
    cases hread
    exact ⟨c :: run, rest, rfl, rfl, .word hc hrun hrest⟩
  | string =>
    obtain ⟨quote, text, rfl, hquote⟩ := Text.exists_cons_of_head?_any hstart
    obtain ⟨s, hs, rfl⟩ := Finding.exists_of_map_eq_ok hread
    rw [Grammar.stringLiteral] at hs
    split at hs
    · rename_i units hunits
      cases hs
      obtain ⟨hfit, rest, rfl⟩ := Grammar.fits_of_stringUnits? hunits
      let s : Grammar.StringLiteral := ⟨quote, units⟩
      refine ⟨quote :: (s.body ++ [quote]), rest, ?_, ?_, .string (s := s) hquote hfit⟩
      · simp [s, Grammar.StringLiteral.body]
      · simp [s, Reading.map, Nat.add_comm]
    · cases hs
  | regularExpression =>
    obtain ⟨hslash, hnext⟩ := Bool.and_eq_true_iff.mp hstart
    obtain ⟨text, rfl⟩ := List.head?_eq_some_iff.mp (eq_of_beq hslash)
    obtain ⟨s, hs, rfl⟩ := Finding.exists_of_map_eq_ok hread
    obtain ⟨body, rest, rfl, hbody⟩ := Grammar.exists_of_regularExpression_cons hs
    have hne : body ≠ [] := by
      rintro rfl
      simp at hnext
    have htext : '/' :: (body ++ '/' :: rest) = '/' :: (body ++ ['/']) ++ rest := by simp
    rw [htext, Grammar.regularExpression_eq hbody] at hs
    cases hs
    exact ⟨_, rest, htext, rfl, .regularExpression hne hbody⟩
  | operator =>
    obtain ⟨c, text, rfl, hc⟩ := Text.exists_cons_of_head?_any hstart
    obtain ⟨run, rest, htext, hfound, hrun, hrest⟩ :=
      Text.exists_longest_run config.isOperatorChar (c :: text)
    have hne : run ≠ [] := by
      rw [← hfound]
      simp [hc]
    rw [Rule.read, Grammar.operator, hfound] at hread
    cases hread
    exact ⟨run, rest, htext, rfl, .operator hne hrun hrest⟩
  | single =>
    cases text with
    | nil => exact absurd rfl (Rule.ne_nil_of_starts hstart)
    | cons c rest =>
      cases hread
      exact ⟨[c], rest, rfl, rfl, .single⟩

/-! ### Other texts behind a piece -/

/-- A line terminator that neither a word nor an operator goes on with, so that everything ends in
front of it. -/
structure Config.IsBreak (config : Config) (c : Char) : Prop where
  isLineTerminator : isLineTerminator c = true
  isWordPart : config.isWordPart c = false
  isOperatorChar : config.isOperatorChar c = false

theorem not_isDigit_of_isLineTerminator {c : Char} (h : isLineTerminator c = true) :
    isDigit c = false := by
  simp only [isLineTerminator, Bool.or_eq_true, beq_iff_eq] at h
  rcases h with ((rfl | rfl) | rfl) | rfl <;> decide

/-- A piece stays one in front of a text that is empty, starts with the same character as before,
or starts with a character in front of which everything ends. -/
theorem RulePiece.congr {rest' : List Char} (h : RulePiece config rule raw form rest)
    (hrest' : ∀ c ∈ rest'.head?, c ∈ rest.head? ∨ config.IsBreak c) :
    RulePiece config rule raw form rest' := by
  cases h with
  | comment h =>
    cases h with
    | line hbody hrest =>
      exact .comment (.line hbody fun c hc =>
        (hrest' c hc).elim (hrest c) Config.IsBreak.isLineTerminator)
    | block hbody => exact .comment (.block hbody)
  | decimal hne hdigits hrest =>
    exact .decimal hne hdigits fun c hc =>
      (hrest' c hc).elim (hrest c) fun hbreak => not_isDigit_of_isLineTerminator hbreak.1
  | word hstart hrun hrest =>
    exact .word hstart hrun fun c hc => (hrest' c hc).elim (hrest c) Config.IsBreak.isWordPart
  | string hquote hunits => exact .string hquote hunits
  | regularExpression hne hbody => exact .regularExpression hne hbody
  | operator hne hrun hrest =>
    exact .operator hne hrun fun c hc => (hrest' c hc).elim (hrest c) Config.IsBreak.isOperatorChar
  | single => exact .single

end EcmaLex
