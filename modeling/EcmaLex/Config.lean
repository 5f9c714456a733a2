import EcmaLex.CharClass
import EcmaLex.Character

/-!
# Configurations

A configuration fixes the parts of the lexical grammar that are left open: the keywords, the
operators, the punctuators and the characters of words. It also says whether comments are tokens
and which label the tokens carry.

Of the operators only those of one character matter to the grammar: a character takes part in an
operator if it is an operator alone and no punctuator.

## Main definitions

* `EcmaLex.Config` : configurations, with the default value of each part.
* `EcmaLex.Config.isOperatorChar` : the characters that runs of operators are made of.
-/

namespace EcmaLex

/-- The words that are keywords by default. -/
def defaultKeywords : List String :=
  ["break", "case", "catch", "continue", "debugger", "default", "delete", "do", "else", "finally",
    "for", "function", "if", "in", "instanceof", "new", "return", "switch", "this", "throw", "try",
    "typeof", "var", "void", "while", "with", "class", "const", "enum", "export", "extends",
    "import", "super"]

/-- The operators by default. -/
def defaultOperators : List String :=
  ["\x7b", "\x7d", "(", ")", "[", "]", ".", ";", ",", "?", "===", "==", "=", "!==", "!=", "!",
    "<<=", "<<", "<=", "<", ">>>=", ">>>", ">>=", ">>", ">=", ">", "+=", "++", "+", "-=", "--",
    "-", "*=", "*", "/=", "/", "%=", "%", "&&", "&=", "&", "||", "|=", "|", "^=", "^", "~"]

/-- The punctuators by default. -/
def defaultPunctuators : List Char :=
  ['.', '(', ')', ';', ',', '{', '}', '[', ']', ':', '?', '~']

/-- The open parts of the lexical grammar, and how tokens are reported. -/
structure Config where
  keywords : List String := defaultKeywords
  operators : List String := defaultOperators
  /-- The characters that are no part of operators. -/
  punctuators : List Char := defaultPunctuators
  wordStart : CharClass := .predicate isWordStart
  wordPart : CharClass := .predicate isWordPart
  /-- The label that every token carries. -/
  source : Option String := none
  /-- Whether comments are tokens. -/
  emitComments : Bool := false

instance : Inhabited Config := ⟨{}⟩

namespace Config

/-- Whether a word is a keyword. -/
def isKeyword (config : Config) (word : String) : Bool := config.keywords.contains word

/-- Whether a character is an operator by itself. -/
def isOperator (config : Config) (c : Char) : Bool :=
  config.operators.contains (String.ofList [c])

/-- Whether a character is a punctuator. -/
def isPunctuator (config : Config) (c : Char) : Bool := config.punctuators.contains c

/-- Whether a character takes part in operators: it is one by itself, and no punctuator. -/
def isOperatorChar (config : Config) (c : Char) : Bool :=
  config.isOperator c && !config.isPunctuator c

/-- Whether a character starts a word. -/
def isWordStart (config : Config) (c : Char) : Bool := config.wordStart.holds c

/-- Whether a character continues a word. -/
def isWordPart (config : Config) (c : Char) : Bool := config.wordPart.holds c

/-- The configuration with a label for tokens, unless it has one already. -/
def withDefaultSource (config : Config) (label : String) : Config :=
  { config with source := config.source.or (some label) }

end Config

end EcmaLex
