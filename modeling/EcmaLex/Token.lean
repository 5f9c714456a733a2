import EcmaLex.Decimal.Numeral
import EcmaLex.Location

/-!
# Tokens

A token is a piece of source text with its kind, its value, its place and the label of the text it
comes from. The value of a numeric literal is a floating point number; every other token has a
text, in which escapes are decoded and delimiters of strings and comments are left out.

## Main definitions

* `EcmaLex.Tag` : the kinds of tokens.
* `EcmaLex.Lexeme` : the values of tokens.
* `EcmaLex.Token` : tokens.
-/

namespace EcmaLex

/-- The kinds of tokens. An `identifier` is a word with no other meaning, and a `char` is a
character that is a token of its own. -/
inductive Tag
  | comment
  | decimalLiteral
  | identifier
  | keyword
  | booleanLiteral
  | stringLiteral
  | regularExpressionLiteral
  | operator
  | char (c : Char)
  | eof
  deriving DecidableEq, Repr

/-- The name of a kind of tokens; a character names itself. -/
def Tag.text : Tag → String
  | comment => "comment"
  | decimalLiteral => "decimalLiteral"
  | identifier => "identifier"
  | keyword => "keyword"
  | booleanLiteral => "booleanLiteral"
  | stringLiteral => "stringLiteral"
  | regularExpressionLiteral => "regularExpressionLiteral"
  | operator => "operator"
  | char c => String.ofList [c]
  | eof => "eof"

/-- The values of tokens. Two values are compared as their parts are, so the value that is not a
number differs from itself. -/
inductive Lexeme
  | text (s : String)
  | number (x : Float)
  deriving BEq, DecidableEq, Repr

namespace Lexeme

/-- A value written out: a text as it is, a number as its numeral. -/
def display : Lexeme → String
  | text s => s
  | number x => String.ofList (floatNumeral x)

/-- The text that a value is. -/
def text? : Lexeme → Option String
  | text s => some s
  | number _ => none

/-- The number that a value is. -/
def number? : Lexeme → Option Float
  | text _ => none
  | number x => some x

end Lexeme

/-- A piece of source text with its meaning and its place. -/
structure Token where
  tag : Tag
  lexeme : Lexeme
  location : SourceLocation
  /-- The label of the text it comes from. -/
  source : Option String
  /-- The bytes it takes. -/
  span : Span
  deriving DecidableEq, Repr

/-- Whether a token is the end of the text. -/
def Token.isEof (t : Token) : Bool := t.tag == .eof

end EcmaLex
