/-!
# Tokens of declarations

The lexical grammar is described by annotated declarations of types and functions. Their text is
cut into identifiers, lifetimes, literals, punctuation characters and delimiters. A documentation
comment stands for the attribute that it abbreviates.

## Main definitions

* `EcmaLex.Declaration.Token` : the tokens of declarations.
* `EcmaLex.Declaration.sourceText` : the text of tokens, without blanks between them.
-/

namespace EcmaLex.Declaration

/-- The delimiters that come in pairs. -/
inductive Delimiter
  | paren
  | bracket
  | brace
  deriving DecidableEq, Repr

/-- The character that opens a pair. -/
def Delimiter.opening : Delimiter → Char
  | paren => '('
  | bracket => '['
  | brace => '{'

/-- The character that closes a pair. -/
def Delimiter.closing : Delimiter → Char
  | paren => ')'
  | bracket => ']'
  | brace => '}'

/-- All delimiters. -/
def Delimiter.all : List Delimiter := [paren, bracket, brace]

/-- The tokens of declarations. A raw identifier is never a keyword, a string literal comes as it is
written and as it reads, and a punctuation character with whether another follows at once. -/
inductive Token
  | ident (raw : Bool) (name : String)
  | lifetime (name : String)
  | string (source value : String)
  | literal (source : String)
  | punct (c : Char) (joint : Bool)
  | opening (d : Delimiter)
  | closing (d : Delimiter)
  deriving DecidableEq, Repr

/-- A token as it is written. -/
def Token.sourceText : Token → String
  | ident raw name => if raw then "r#" ++ name else name
  | lifetime name => "'" ++ name
  | string source _ => source
  | literal source => source
  | punct c _ => String.ofList [c]
  | opening d => String.ofList [d.opening]
  | closing d => String.ofList [d.closing]

/-- Tokens as they are written, without blanks between them. -/
def sourceText (tokens : List Token) : String :=
  (tokens.map Token.sourceText).foldl (· ++ ·) ""

/-- The words that are no identifiers unless they are written raw. -/
def keywords : List String :=
  ["_", "abstract", "as", "async", "await", "become", "box", "break", "const", "continue", "crate",
    "do", "dyn", "else", "enum", "extern", "false", "final", "fn", "for", "if", "impl", "in",
    "let", "loop", "macro", "match", "mod", "move", "mut", "override", "priv", "pub", "ref",
    "return", "Self", "self", "static", "struct", "super", "trait", "true", "try", "type",
    "typeof", "unsafe", "unsized", "use", "virtual", "where", "while", "yield"]

end EcmaLex.Declaration
