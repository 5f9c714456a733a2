/-!
# Characters of source text

The classes of characters that the lexical grammar is written in: line terminators, white space,
decimal digits, quotes, and the characters that words are made of unless a configuration says
otherwise.

## Main definitions

* `EcmaLex.isLineTerminator` : the four characters that end a line.
* `EcmaLex.isWhitespace` : the white space of the grammar, which holds no line terminator.
* `EcmaLex.isDigit`, `EcmaLex.isQuote` : the characters that open numbers and strings.
* `EcmaLex.isWordStart`, `EcmaLex.isWordPart` : the characters of words.

## Main results

* `EcmaLex.not_isWhitespace_of_isLineTerminator` : no line terminator is white space.
-/

namespace EcmaLex

/-- Whether a character ends a line: line feed, carriage return, line separator or paragraph
separator. -/
def isLineTerminator (c : Char) : Bool :=
  c == '\n' || c == '\r' || c == '\u2028' || c == '\u2029'

/-- The space separators of Unicode, as ranges of code points. -/
def spaceSeparators : List (Nat × Nat) :=
  [(0x20, 0x20), (0xA0, 0xA0), (0x1680, 0x1680), (0x2000, 0x200A), (0x202F, 0x202F),
    (0x205F, 0x205F), (0x3000, 0x3000)]

/-- Whether a character is white space: a tab, a vertical tab, a form feed, a byte order mark or a
space separator. -/
def isWhitespace (c : Char) : Bool :=
  c == '\t' || c == '\x0b' || c == '\x0c' || c == '\ufeff' ||
    spaceSeparators.any fun (lo, hi) => lo ≤ c.toNat && c.toNat ≤ hi

/-- Whether a character is one of the ten ASCII digits. -/
def isDigit (c : Char) : Bool := c.isDigit

/-- Whether a character opens a string literal. -/
def isQuote (c : Char) : Bool := c == '\'' || c == '"'

/-- Whether a character starts a word by default: a dollar sign, a low line or an ASCII letter. -/
def isWordStart (c : Char) : Bool := c == '$' || c == '_' || c.isAlpha

/-- Whether a character continues a word by default: those that start one, and the ASCII digits. -/
def isWordPart (c : Char) : Bool := isWordStart c || isDigit c

theorem not_isWhitespace_of_isLineTerminator {c : Char} (h : isLineTerminator c = true) :
    isWhitespace c = false := by
  simp only [isLineTerminator, Bool.or_eq_true, beq_iff_eq] at h
  rcases h with ((rfl | rfl) | rfl) | rfl <;> decide

end EcmaLex
