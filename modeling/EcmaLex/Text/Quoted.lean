import EcmaLex.Unicode.Invisible

/-!
# Quoted texts

A quoted text stands on one line between double quotes. A backslash introduces the double quote,
the backslash itself, the characters with a letter of their own, and every invisible character by
its code point in hexadecimal digits.

## Main definitions

* `EcmaLex.Text.escape` : a character as it is written in a quoted text.
* `EcmaLex.Text.quote` : a quoted text.
-/

namespace EcmaLex.Text

/-- A character by its code point. -/
def escapeCodePoint (c : Char) : List Char :=
  '\\' :: 'u' :: '{' :: Nat.toDigits 16 c.toNat ++ ['}']

/-- A character as it is written in a quoted text; `hidden` tells which characters are not written
as they are. -/
def escape (hidden : Char → Bool) : Char → List Char
  | '"' => ['\\', '"']
  | '\\' => ['\\', '\\']
  | '\n' => ['\\', 'n']
  | '\r' => ['\\', 'r']
  | '\t' => ['\\', 't']
  | '\x00' => ['\\', '0']
  | c => if hidden c then escapeCodePoint c else [c]

/-- A text between double quotes, its characters written by `escape`. -/
def quoteWith (hidden : Char → Bool) (text : List Char) : List Char :=
  '"' :: text.flatMap (escape hidden) ++ ['"']

/-- A text between double quotes, with its invisible characters written by their code points. -/
def quote (text : List Char) : List Char := quoteWith Unicode.isInvisible text

end EcmaLex.Text
