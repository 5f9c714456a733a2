import EcmaLex.Reading

/-!
# Literals

A number is a run of decimal digits and nothing more. A string runs from a quote to the next such
quote that no backslash escapes. A regular expression runs from a slash to the next slash, whatever
is between them.

## Main definitions

* `EcmaLex.Grammar.decimalValue` : the value of a run of digits.
* `EcmaLex.Grammar.StringUnit` : a character of a string as it is written.
* `EcmaLex.Grammar.decimal`, `EcmaLex.Grammar.stringLiteral`, `EcmaLex.Grammar.regularExpression` :
  the rules.
-/

namespace EcmaLex.Grammar

/-! ### Numbers -/

/-- The value of a decimal digit. -/
def digitValue (c : Char) : Float := Float.ofNat (c.toNat - '0'.toNat)

/-- The value of a run of digits, rounded after each multiplication and each addition. -/
def decimalValue (digits : List Char) : Float :=
  digits.foldl (fun value c => 10.0 * value + digitValue c) 0.0

/-- Reads the run of digits ahead, which may be empty. -/
def decimal (text : List Char) : Reading Float :=
  let digits := text.takeWhile isDigit
  ⟨digits.length, decimalValue digits⟩

/-! ### Strings -/

/-- The character that a backslash and the character `c` stand for. -/
def unescape : Char → Char
  | 'n' => '\n'
  | 'r' => '\r'
  | 't' => '\t'
  | 'b' => '\x08'
  | 'f' => '\x0c'
  | c => c

/-- A character of a string as it is written: itself, or a backslash and a character behind it. -/
inductive StringUnit
  | plain (c : Char)
  | escaped (c : Char)
  deriving DecidableEq, Repr

namespace StringUnit

/-- The characters that write a unit. -/
def source : StringUnit → List Char
  | plain c => [c]
  | escaped c => ['\\', c]

/-- The character that a unit stands for. -/
def value : StringUnit → Char
  | plain c => c
  | escaped c => unescape c

end StringUnit

/-- The units before the first `quote` that no backslash escapes. -/
def stringUnits? (quote : Char) : List Char → Option (List StringUnit)
  | [] => none
  | [c] => if c = quote then some [] else none
  | c :: d :: rest =>
    if c = quote then some []
    else if c = '\\' then (stringUnits? quote rest).map (.escaped d :: ·)
    else (stringUnits? quote (d :: rest)).map (.plain c :: ·)

/-- A string literal. -/
structure StringLiteral where
  quote : Char
  /-- The characters between its quotes, as they are written. -/
  units : List StringUnit
  deriving DecidableEq, Repr

namespace StringLiteral

/-- The characters that a string literal stands for. -/
def value (s : StringLiteral) : List Char := s.units.map StringUnit.value

/-- The characters between the quotes. -/
def body (s : StringLiteral) : List Char := s.units.flatMap StringUnit.source

end StringLiteral

/-- Reads a string literal; its first character, whichever it is, serves as its quote. -/
def stringLiteral : List Char → Finding StringLiteral
  | [] => .error .string
  | quote :: rest =>
    match stringUnits? quote rest with
    | some units =>
      let s : StringLiteral := ⟨quote, units⟩
      .ok ⟨1 + s.body.length + 1, s⟩
    | none => .error .string

/-! ### Regular expressions -/

/-- Reads a regular expression: one character, and all up to the next slash and with it. -/
def regularExpression (text : List Char) : Finding (List Char) :=
  match (text.drop 1).idxOf? '/' with
  | some n => .ok ⟨1 + n + 1, text.take (1 + n + 1)⟩
  | none => .error .regularExpression

end EcmaLex.Grammar
