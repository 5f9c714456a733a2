import EcmaLex.Proofs.TokenPieces
import EcmaLex.SourceFile

/-!
# Tokens and the text that they take

A token tells its value and the bytes that it takes, and the two come from the same piece of text.
The value of a word, of an operator, of a regular expression and of a single character is the piece
itself. A comment and a string keep their delimiters to themselves, and a string also the
backslashes of its escapes; a number has the value of its digits.

## Main definitions

* `EcmaLex.Grammar.unescaped` : a text without its backslashes.
* `EcmaLex.Token.WrittenAs` : a token written as a piece of text.

## Main results

* `EcmaLex.TokenPiece.writtenAs` : what is read as a token is how the token is written.
* `EcmaLex.Scanner.written_of_steps` : every token of a run is written as the text under its span.
-/

namespace EcmaLex

/-! ### Strings without their backslashes -/

namespace Grammar

/-- A text in which each backslash and the character behind it, taken from left to right, are
replaced by the character that they stand for. -/
def unescaped : List Char → List Char
  | '\\' :: c :: text => unescape c :: unescaped text
  | c :: text => c :: unescaped text
  | [] => []

theorem unescaped_plain {c : Char} (h : c ≠ '\\') (text : List Char) :
    unescaped (c :: text) = c :: unescaped text := by
  rw [unescaped]
  intro d rest hc
  exact absurd hc h

/-- Without its backslashes the body of a string is what the string stands for. -/
theorem unescaped_body {s : StringLiteral} (h : ∀ u ∈ s.units, u.Fits s.quote) :
    unescaped s.body = s.value := by
  obtain ⟨quote, units⟩ := s
  rw [StringLiteral.body, StringLiteral.value]
  induction units with
  | nil => rfl
  | cons u units ih =>
    obtain ⟨hu, hunits⟩ := List.forall_mem_cons.mp h
    rw [List.flatMap_cons, List.map_cons, ← ih hunits]
    cases u with
    | plain c => exact unescaped_plain hu.2 _
    | escaped c => rfl

example : unescaped "a\\n\\\\n\\é".toList = "a\n\\né".toList := by decide

end Grammar

/-! ### Written tokens -/

/-- A token is written as the piece `raw` of a text, where `next` is the character behind it. -/
def Token.WrittenAs (t : Token) (raw : List Char) (next : Option Char) : Prop :=
  match t.tag with
  | .comment => ∃ body, t.lexeme = .text (String.ofList body) ∧
      (raw = '/' :: '/' :: body ∧ (∀ c ∈ body, isLineTerminator c = false) ∧
          (∀ c ∈ next, isLineTerminator c = true) ∨
        raw = '/' :: '*' :: (body ++ ['*', '/']) ∧ ¬ ['*', '/'] <:+: body ++ ['*'])
  | .decimalLiteral => t.lexeme = .number (Grammar.decimalValue raw) ∧ raw ≠ [] ∧
      ∀ c ∈ raw, isDigit c = true
  | .identifier | .keyword | .booleanLiteral | .operator => t.lexeme = .text (String.ofList raw)
  | .stringLiteral => ∃ quote body, isQuote quote = true ∧ raw = quote :: (body ++ [quote]) ∧
      t.lexeme = .text (String.ofList (Grammar.unescaped body))
  | .regularExpressionLiteral => t.lexeme = .text (String.ofList raw) ∧
      ∃ body, body ≠ [] ∧ '/' ∉ body ∧ raw = '/' :: (body ++ ['/'])
  | .char c => t.lexeme = .text (String.ofList [c]) ∧ raw = [c]
  | .eof => False

variable {config : Config} {goal : Goal} {rule : Rule} {raw rest : List Char} {form : Form}
  {t : Token}

/-- A token is written as what the rule for it reads. -/
theorem RulePiece.writtenAs (h : RulePiece config rule raw form rest) (htag : t.tag = form.tag)
    (hlexeme : t.lexeme = form.lexeme) : t.WrittenAs raw rest.head? := by
  rw [Token.WrittenAs, htag]
  cases h with
  | comment h =>
    cases h with
    | line hbody hrest => exact ⟨_, hlexeme, .inl ⟨rfl, hbody, hrest⟩⟩
    | block hbody => exact ⟨_, hlexeme, .inr ⟨rfl, hbody⟩⟩
  | decimal hne hdigits => exact ⟨hlexeme, hne, hdigits⟩
  | @word c run =>
    simp only [Form.tag]
    obtain h | h | h := Grammar.gives_wordTag config (String.ofList (c :: run))
    all_goals
      rw [h]
      exact hlexeme
  | string hquote hunits =>
    refine ⟨_, _, hquote, rfl, ?_⟩
    rw [Grammar.unescaped_body hunits]
    exact hlexeme
  | regularExpression hne hbody => exact ⟨hlexeme, _, hne, hbody, rfl⟩
  | operator => exact hlexeme
  | single => exact ⟨hlexeme, rfl⟩

/-- A token is written as the piece of text that is read as the token. -/
theorem TokenPiece.writtenAs (h : TokenPiece config goal raw form rest) (htag : t.tag = form.tag)
    (hlexeme : t.lexeme = form.lexeme) : t.WrittenAs raw rest.head? := by
  cases h with
  | comment _ h => exact (h.rulePiece config).writtenAs htag hlexeme
  | ofHead _ _ _ h => exact h.writtenAs htag hlexeme

namespace Scanner

/-- **Every token is written as the text under its span.** The scanner is made from a file or from
its text alone, and the steps have any goals. -/
theorem written_of_steps (file : SourceFile) (config : Config) {s : Scanner}
    (hs : s = file.scanner config ∨ s = ofString file.contents config) (goals : List Goal)
    (ht : .ok t ∈ (steps goals s).1) (heof : t.isEof = false) :
    ∃ before raw after, file.contents.toList = before ++ raw ++ after ∧
      t.span = ⟨Text.byteLength before, Text.byteLength (before ++ raw)⟩ ∧
      file.sourceAt t.span = some (String.ofList raw) ∧ t.WrittenAs raw after.head? := by
  obtain ⟨config', rfl⟩ : ∃ config', s = ofString file.contents config' := by
    rcases hs with rfl | rfl
    · exact ⟨_, rfl⟩
    · exact ⟨_, rfl⟩
  obtain ⟨goal, -, before, raw, after, form, htext, hspan, hpiece, htag, hlexeme⟩ :=
    exists_tokenPiece_of_mem_steps ht heof
  refine ⟨before, raw, after, htext, hspan, ?_, hpiece.writtenAs htag hlexeme⟩
  rw [SourceFile.sourceAt, hspan, htext, Text.slice?_append]
  rfl

/-- A string behind a comment and an end of line, with an escape and a character of three bytes. -/
theorem written_string_with_escape :
    SourceFile.sourceAt ⟨"a.js", "//x\r\n'€\\t';"⟩ ⟨5, 12⟩ = some "'€\\t'" ∧
      ∃ next, (⟨.stringLiteral, .text "€\t", ⟨⟨2, 0⟩, ⟨2, 5⟩⟩, some "a.js", ⟨5, 12⟩⟩ :
        Token).WrittenAs "'€\\t'".toList next := by
  have hsource : SourceFile.sourceAt ⟨"a.js", "//x\r\n'€\\t';"⟩ ⟨5, 12⟩ = some "'€\\t'" := by decide +kernel
  have hmem : .ok ⟨.stringLiteral, .text "€\t", ⟨⟨2, 0⟩, ⟨2, 5⟩⟩, some "a.js", ⟨5, 12⟩⟩ ∈
      (steps [.division] (SourceFile.scanner ⟨"a.js", "//x\r\n'€\\t';"⟩ {})).1 :=
    List.mem_singleton.mpr (by decide +kernel)
  obtain ⟨-, raw, after, -, -, hraw, hwritten⟩ :=
    written_of_steps ⟨"a.js", "//x\r\n'€\\t';"⟩ {} (.inl rfl) [.division] hmem rfl
  have heq : String.ofList raw = "'€\\t'" := Option.some.inj (hraw.symm.trans hsource)
  rw [← String.toList_ofList (l := raw), heq] at hwritten
  exact ⟨hsource, after.head?, hwritten⟩

end Scanner

end EcmaLex
