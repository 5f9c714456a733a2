import EcmaLex.Grammar.Comment
import EcmaLex.Grammar.Literal
import EcmaLex.Grammar.Run

/-!
# The lexical grammar

There are seven rules for tokens, and four more for the pieces that comments and layout are made
of. Each has a condition on the text ahead under which it applies, and each can be tried whether or
not it applies.

## Main definitions

* `EcmaLex.Rule` : the rules for tokens, with `Rule.starts` and `Rule.read`.
* `EcmaLex.Form` : what a token is read as, with its kind and its value.
* `EcmaLex.Kind` : all rules, with `Kind.starts` and `Kind.read`.

## Main results

* `EcmaLex.Kind.ne_nil_of_starts` : a rule applies only where a character is ahead.
* `EcmaLex.Kind.length_pos_of_starts` : a rule that applies reads a character.
-/

namespace EcmaLex

/-- The rules for tokens: comments of either form, runs of digits, words, the two literals between
delimiters, runs of operator characters, and single characters. -/
inductive Rule
  | comment
  | decimal
  | word
  | string
  | regularExpression
  | operator
  | single
  deriving DecidableEq, Repr

/-- What a token is read as. A word comes with its kind, a regular expression with its slashes. -/
inductive Form
  | comment (c : Grammar.Comment)
  | decimal (value : Float)
  | word (raw : List Char) (tag : Tag)
  | string (s : Grammar.StringLiteral)
  | regularExpression (raw : List Char)
  | operator (raw : List Char)
  | single (c : Char)
  deriving DecidableEq, Repr

namespace Form

/-- The kind of the token. -/
def tag : Form → Tag
  | comment _ => .comment
  | decimal _ => .decimalLiteral
  | word _ tag => tag
  | string _ => .stringLiteral
  | regularExpression _ => .regularExpressionLiteral
  | operator _ => .operator
  | single c => .char c

/-- The value of the token. -/
def lexeme : Form → Lexeme
  | comment c => .text (String.ofList c.text)
  | decimal value => .number value
  | word raw _ => .text (String.ofList raw)
  | string s => .text (String.ofList s.value)
  | regularExpression raw => .text (String.ofList raw)
  | operator raw => .text (String.ofList raw)
  | single c => .text (String.ofList [c])

end Form

namespace Rule

variable (config : Config)

/-- Whether a rule applies to a text. -/
def starts (rule : Rule) (text : List Char) : Bool :=
  match rule with
  | comment => Grammar.startsComment text
  | decimal => text.head?.any isDigit
  | word => text.head?.any config.isWordStart
  | string => text.head?.any isQuote
  | regularExpression => text.head? == some '/' && text[1]? != some '/'
  | operator => text.head?.any config.isOperatorChar
  | single => !text.isEmpty

/-- What a rule finds at the front of a text. -/
def read (rule : Rule) (text : List Char) : Finding Form :=
  match rule with
  | comment => (Grammar.comment text).map (·.map .comment)
  | decimal => .ok ((Grammar.decimal text).map .decimal)
  | word =>
    .ok ((Grammar.word config text).map fun raw =>
      .word raw (Grammar.wordTag config (String.ofList raw)))
  | string => (Grammar.stringLiteral text).map (·.map .string)
  | regularExpression => (Grammar.regularExpression text).map (·.map .regularExpression)
  | operator => .ok ((Grammar.operator config text).map .operator)
  | single => .ok ((Grammar.single text).map .single)

end Rule

/-- All rules of the lexical grammar: those for tokens, for the two forms of comments, for runs of
white space, and for ends of lines. -/
inductive Kind
  | ofRule (rule : Rule)
  | lineComment
  | blockComment
  | whitespace
  | lineTerminator
  deriving DecidableEq, Repr

namespace Kind

variable (config : Config)

/-- Whether a rule applies to a text. -/
def starts (kind : Kind) (text : List Char) : Bool :=
  match kind with
  | ofRule rule => rule.starts config text
  | lineComment => Grammar.startsLineComment text
  | blockComment => Grammar.startsBlockComment text
  | whitespace => text.head?.any isWhitespace
  | lineTerminator => text.head?.any isLineTerminator

/-- What a rule finds at the front of a text; white space and ends of lines form no token. -/
def read (kind : Kind) (text : List Char) : Finding (Option Form) :=
  match kind with
  | ofRule rule => (rule.read config text).map (·.map some)
  | lineComment => .ok ((Grammar.lineComment text).map fun c => some (.comment c))
  | blockComment => (Grammar.blockComment text).map (·.map fun c => some (.comment c))
  | whitespace => .ok ((Grammar.whitespace text).map fun _ => none)
  | lineTerminator => .ok ((Grammar.lineTerminator text).map fun _ => none)

end Kind

/-! ### Progress -/

variable {config : Config}

private theorem ne_nil_of_head?_any {p : Char → Bool} {text : List Char}
    (h : text.head?.any p = true) : text ≠ [] := by
  rintro rfl
  simp at h

private theorem startsComment_ne_nil {text : List Char} (h : Grammar.startsComment text = true) :
    text ≠ [] := by
  rintro rfl
  simp [Grammar.startsComment, Grammar.startsBlockComment, Grammar.startsLineComment] at h

theorem Rule.ne_nil_of_starts {rule : Rule} {text : List Char}
    (h : rule.starts config text = true) : text ≠ [] := by
  cases rule with
  | comment => exact startsComment_ne_nil h
  | decimal => exact ne_nil_of_head?_any h
  | word => exact ne_nil_of_head?_any h
  | string => exact ne_nil_of_head?_any h
  | regularExpression =>
    rintro rfl
    simp [starts] at h
  | operator => exact ne_nil_of_head?_any h
  | single =>
    rintro rfl
    simp [starts] at h

theorem Kind.ne_nil_of_starts {kind : Kind} {text : List Char}
    (h : kind.starts config text = true) : text ≠ [] := by
  cases kind with
  | ofRule rule => exact Rule.ne_nil_of_starts h
  | lineComment => exact startsComment_ne_nil (by simp_all [starts, Grammar.startsComment])
  | blockComment => exact startsComment_ne_nil (by simp_all [starts, Grammar.startsComment])
  | whitespace => exact ne_nil_of_head?_any h
  | lineTerminator => exact ne_nil_of_head?_any h

private theorem length_takeWhile_pos {p : Char → Bool} {text : List Char}
    (h : text.head?.any p = true) : 0 < (text.takeWhile p).length := by
  cases text with
  | nil => simp at h
  | cons c text =>
    simp only [List.head?_cons, Option.any_some] at h
    simp [h]

private theorem length_lineComment_pos {text : List Char} (h : text ≠ []) :
    0 < (Grammar.lineComment text).length := by
  cases text with
  | nil => exact absurd rfl h
  | cons c text => simp only [Grammar.lineComment, List.take_succ_cons, List.length_cons]; omega

private theorem length_blockComment_pos {text : List Char} {r : Reading Grammar.Comment}
    (h : Grammar.blockComment text = .ok r) : 0 < r.length := by
  unfold Grammar.blockComment at h
  split at h
  · cases h
    simp only
    omega
  · cases h

private theorem length_comment_pos {text : List Char} {r : Reading Grammar.Comment}
    (hne : text ≠ []) (h : Grammar.comment text = .ok r) : 0 < r.length := by
  unfold Grammar.comment at h
  split at h
  · exact length_blockComment_pos h
  · cases h
    exact length_lineComment_pos hne

/-- What a mapped finding holds was found before it was mapped. -/
theorem Finding.exists_of_map_eq_ok {α β : Type} {f : α → β} {found : Finding α} {r : Reading β}
    (h : found.map (·.map f) = .ok r) : ∃ s, found = .ok s ∧ s.map f = r := by
  cases found with
  | error => cases h
  | ok s =>
    cases h
    exact ⟨s, rfl, rfl⟩

/-- A mapped finding fails where the finding does. -/
theorem Finding.eq_error_of_map {α β : Type} {f : α → β} {found : Finding α}
    {construct : Delimited} (h : found.map (·.map f) = .error construct) :
    found = .error construct := by
  cases found with
  | error =>
    cases h
    rfl
  | ok => cases h

theorem Rule.length_pos_of_starts {rule : Rule} {text : List Char} {r : Reading Form}
    (h : rule.starts config text = true) (hr : rule.read config text = .ok r) :
    0 < r.length := by
  have hne := Rule.ne_nil_of_starts h
  cases rule with
  | comment =>
    obtain ⟨s, hs, rfl⟩ := Finding.exists_of_map_eq_ok hr
    exact length_comment_pos hne hs
  | decimal =>
    cases hr
    exact length_takeWhile_pos h
  | word =>
    cases hr
    cases text with
    | nil => exact absurd rfl hne
    | cons c text => simp [Reading.map, Grammar.word]
  | string =>
    obtain ⟨s, hs, rfl⟩ := Finding.exists_of_map_eq_ok hr
    cases text with
    | nil => exact absurd rfl hne
    | cons c text =>
      simp only [Grammar.stringLiteral] at hs
      split at hs
      · cases hs
        simp only [Reading.map]
        omega
      · cases hs
  | regularExpression =>
    obtain ⟨s, hs, rfl⟩ := Finding.exists_of_map_eq_ok hr
    simp only [Grammar.regularExpression] at hs
    split at hs
    · cases hs
      simp only [Reading.map]
      omega
    · cases hs
  | operator =>
    cases hr
    exact length_takeWhile_pos h
  | single =>
    cases hr
    cases text with
    | nil => exact absurd rfl hne
    | cons c text => simp [Reading.map, Grammar.single]

theorem Kind.length_pos_of_starts {kind : Kind} {text : List Char} {r : Reading (Option Form)}
    (h : kind.starts config text = true) (hr : kind.read config text = .ok r) :
    0 < r.length := by
  have hne := Kind.ne_nil_of_starts h
  cases kind with
  | ofRule rule =>
    obtain ⟨s, hs, rfl⟩ := Finding.exists_of_map_eq_ok hr
    exact Rule.length_pos_of_starts h hs
  | lineComment =>
    cases hr
    exact length_lineComment_pos hne
  | blockComment =>
    obtain ⟨s, hs, rfl⟩ := Finding.exists_of_map_eq_ok hr
    exact length_blockComment_pos hs
  | whitespace =>
    cases hr
    exact length_takeWhile_pos h
  | lineTerminator =>
    cases hr
    cases text with
    | nil => exact absurd rfl hne
    | cons c text =>
      simp only [Reading.map, Grammar.lineTerminator]
      split
      · contradiction
      · exact Nat.two_pos
      · exact Nat.one_pos

end EcmaLex
