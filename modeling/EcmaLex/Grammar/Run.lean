import EcmaLex.Config
import EcmaLex.Reading
import EcmaLex.Token

/-!
# Words, operators and blanks

A word is one character and the longest run of word characters behind it. An operator is the
longest run of operator characters; which operators there are does not matter beyond that. White
space comes in runs too, while line terminators are read one at a time, a carriage return together
with the line feed behind it. What is nothing else is a character of its own.

## Main definitions

* `EcmaLex.Grammar.wordTag` : the kind of token that a word is.
* `EcmaLex.Grammar.word`, `EcmaLex.Grammar.operator`, `EcmaLex.Grammar.single`,
  `EcmaLex.Grammar.whitespace`, `EcmaLex.Grammar.lineTerminator` : the rules.
-/

namespace EcmaLex.Grammar

variable (config : Config)

/-- The kind of token that a word is. The words for truth values are never keywords. -/
def wordTag (word : String) : Tag :=
  if word = "true" ∨ word = "false" then .booleanLiteral
  else if config.isKeyword word then .keyword
  else .identifier

/-- Reads one character, if there is one, and the run of word characters behind it. -/
def word (text : List Char) : Reading (List Char) :=
  let raw := text.take 1 ++ (text.drop 1).takeWhile config.isWordPart
  ⟨raw.length, raw⟩

/-- Reads the run of operator characters ahead, which may be empty. -/
def operator (text : List Char) : Reading (List Char) :=
  let raw := text.takeWhile config.isOperatorChar
  ⟨raw.length, raw⟩

/-- Reads one character; the null character stands in for it at the end of the text. -/
def single (text : List Char) : Reading Char := ⟨(text.take 1).length, text.headD '\x00'⟩

/-- Reads the run of white space ahead, which may be empty. -/
def whitespace (text : List Char) : Reading Unit := ⟨(text.takeWhile isWhitespace).length, ()⟩

/-- Reads a carriage return with the line feed behind it, or one character. -/
def lineTerminator : List Char → Reading Unit
  | [] => ⟨0, ()⟩
  | '\r' :: '\n' :: _ => ⟨2, ()⟩
  | _ :: _ => ⟨1, ()⟩

theorem lineTerminator_cons {c : Char} {text : List Char}
    (h : c = '\r' → text.head? ≠ some '\n') : lineTerminator (c :: text) = ⟨1, ()⟩ := by
  rw [lineTerminator]
  rintro rest hc rfl
  exact h hc rfl

end EcmaLex.Grammar
