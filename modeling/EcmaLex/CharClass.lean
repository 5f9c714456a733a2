import EcmaLex.Pattern.Parser

/-!
# Character classes

A character class decides where words start and how they go on. It is given by a search pattern,
which a character is in when the pattern occurs in the text of that character, or by a predicate.
-/

namespace EcmaLex

/-- A class of characters: those in whose text a pattern occurs, or those that satisfy a
predicate. -/
inductive CharClass
  | pattern (p : Pattern)
  | predicate (p : Char → Bool)

namespace CharClass

/-- The class that a written pattern gives. -/
def ofPattern (text : String) : Except PatternError CharClass :=
  (Pattern.parse text).map .pattern

/-- Whether the class holds a character. -/
def holds : CharClass → Char → Bool
  | pattern p, c => p.isMatch c
  | predicate p, c => p c

end CharClass

end EcmaLex
