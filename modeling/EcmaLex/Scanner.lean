import EcmaLex.Layout

/-!
# Scanning

A scanner is a cursor with a configuration. Each step skips layout and reads one token by the
first rule that applies; at the end of the text every step gives the token for the end. A slash
starts a regular expression or an operator, which the grammar cannot tell: the caller states the
goal with each step.

## Main definitions

* `EcmaLex.Goal` : what a slash starts.
* `EcmaLex.Rule.select` : the rule for the token ahead.
* `EcmaLex.Scanner.next` : one step.

## Main results

* `EcmaLex.Rule.starts_select` : the selected rule applies.
* `EcmaLex.Scanner.length_rest_next_lt` : a step shortens the text ahead unless it gives the end.
-/

namespace EcmaLex

/-- What a slash starts when no comment is there. -/
inductive Goal
  | regularExpression
  | division
  deriving DecidableEq, Repr

/-- The rule for the token at the front of a text. A digit never starts a word, and operators are
tried when no literal is there. -/
def Rule.select (config : Config) (goal : Goal) (text : List Char) : Rule :=
  if config.emitComments && comment.starts config text then .comment
  else if decimal.starts config text then .decimal
  else if word.starts config text then .word
  else if string.starts config text then .string
  else if goal == .regularExpression && regularExpression.starts config text then
    .regularExpression
  else if operator.starts config text then .operator
  else .single

theorem Rule.starts_select {config : Config} {goal : Goal} {text : List Char} (h : text ≠ []) :
    (Rule.select config goal text).starts config text = true := by
  unfold select
  repeat' split
  · simp_all
  · assumption
  · assumption
  · assumption
  · simp_all
  · assumption
  · simp [starts, h]

/-- A cursor with a configuration. -/
structure Scanner where
  cursor : Cursor
  config : Config

namespace Scanner

/-- The scanner at the start of a text. -/
def ofString (text : String) (config : Config) : Scanner := ⟨Cursor.ofString text, config⟩

/-- The scanner with its cursor elsewhere. -/
def moveTo (s : Scanner) (k : Cursor) : Scanner := { s with cursor := k }

/-- The position of the cursor. -/
def position (s : Scanner) : Position := s.cursor.position

/-- The token that starts at `start`, takes the bytes of `span` and ends where the cursor is. -/
def token (s : Scanner) (start : Position) (span : Span) (tag : Tag) (lexeme : Lexeme) : Token where
  tag := tag
  lexeme := lexeme
  location := ⟨start, s.position⟩
  source := s.config.source
  span := span

/-- The token for the end of the text. -/
def eof (s : Scanner) : Token :=
  s.token s.position (s.cursor.spanFrom s.cursor.offset) .eof (.text "eof")

/-- Reads the token ahead by a rule; the scanner stands at its first character. -/
def readToken (s : Scanner) (rule : Rule) : Except ScanError Token × Scanner :=
  let (result, k) := s.cursor.read (rule.read s.config s.cursor.rest)
  let after := s.moveTo k
  (result.map fun lexed => after.token s.position lexed.span lexed.value.tag lexed.value.lexeme,
    after)

/-- One step: skips the layout ahead and reads a token, or gives the end of the text. -/
def next (goal : Goal) (s : Scanner) : Except ScanError Token × Scanner :=
  match s.cursor.skip s.config with
  | (.error e, k) => (.error e, s.moveTo k)
  | (.ok (), k) =>
    let s := s.moveTo k
    if k.isFinished then (.ok s.eof, s)
    else s.readToken (Rule.select s.config goal k.rest)

/-! ### Progress -/

@[simp] theorem cursor_moveTo (s : Scanner) (k : Cursor) : (s.moveTo k).cursor = k := rfl

@[simp] theorem config_moveTo (s : Scanner) (k : Cursor) : (s.moveTo k).config = s.config := rfl

theorem length_rest_readToken_lt {s : Scanner} {rule : Rule}
    (h : rule.starts s.config s.cursor.rest = true) :
    (s.readToken rule).2.cursor.rest.length < s.cursor.rest.length :=
  Cursor.length_rest_read_lt (Rule.ne_nil_of_starts h) fun _ hr => Rule.length_pos_of_starts h hr

/-- Skipping fails only where something is ahead. -/
theorem length_rest_skip_lt_of_error {config : Config} {k : Cursor} {e : ScanError}
    (h : (k.skip config).1 = .error e) : (k.skip config).2.rest.length < k.rest.length := by
  fun_induction Cursor.skip config k with
  | case1 => cases h
  | case2 k kind hk _ _ ih =>
    exact Nat.lt_trans (ih h) (Cursor.length_rest_lex_lt (starts_of_layoutKind? hk))
  | case3 k kind hk => exact Cursor.length_rest_lex_lt (starts_of_layoutKind? hk)

theorem length_rest_next_lt {goal : Goal} {s : Scanner} {t : Token}
    (h : (s.next goal).1 = .ok t) (ht : t.isEof = false) :
    (s.next goal).2.cursor.rest.length < s.cursor.rest.length := by
  have hle := s.cursor.length_rest_skip_le s.config
  unfold next at h ⊢
  split at h
  · cases h
  · rename_i k hk
    rw [hk] at hle
    simp only at h ⊢
    split at h
    · cases h
      cases ht
    · rename_i hfin
      have hne : k.rest ≠ [] := fun hnil => hfin (k.isFinished_iff.mpr hnil)
      rw [if_neg hfin]
      exact Nat.lt_of_lt_of_le (length_rest_readToken_lt (Rule.starts_select hne)) hle

theorem length_rest_next_lt_of_error {goal : Goal} {s : Scanner} {e : ScanError}
    (h : (s.next goal).1 = .error e) :
    (s.next goal).2.cursor.rest.length < s.cursor.rest.length := by
  have hle := s.cursor.length_rest_skip_le s.config
  unfold next at h ⊢
  split at h
  · rename_i e' k hk
    have he : (s.cursor.skip s.config).1 = .error e' := by rw [hk]
    simpa only [hk, cursor_moveTo] using length_rest_skip_lt_of_error he
  · rename_i k hk
    rw [hk] at hle
    simp only at h ⊢
    split at h
    · cases h
    · rename_i hfin
      have hne : k.rest ≠ [] := fun hnil => hfin (k.isFinished_iff.mpr hnil)
      rw [if_neg hfin]
      exact Nat.lt_of_lt_of_le (length_rest_readToken_lt (Rule.starts_select hne)) hle

end Scanner

end EcmaLex
