import EcmaLex.Cursor

/-!
# Readings

What a rule of the lexical grammar finds at the front of a text is told by how many characters it
reads and what they stand for. Rules for constructs with a closing delimiter find nothing when the
delimiter is missing, and then the text is read to its end.

## Main definitions

* `EcmaLex.Delimited` : the constructs with a closing delimiter.
* `EcmaLex.ScanError` : the failure to find the delimiter.
* `EcmaLex.Reading` : what a rule finds.
* `EcmaLex.Cursor.read` : a cursor moved over what a rule finds.
-/

namespace EcmaLex

/-- The constructs that a delimiter closes. -/
inductive Delimited
  | string
  | regularExpression
  | blockComment
  deriving DecidableEq, Repr

/-- The name of a construct. -/
def Delimited.text : Delimited → String
  | string => "string literal"
  | regularExpression => "regular expression literal"
  | blockComment => "block comment"

/-- The end of the text was reached inside a construct. -/
structure ScanError where
  construct : Delimited
  /-- The position of the first character of the construct. -/
  start : Position
  deriving DecidableEq, Repr

/-- The report of a failure. -/
def ScanError.message (e : ScanError) : String :=
  "Unterminated " ++ e.construct.text ++ "\n\tat " ++ e.start.text

/-- What a rule finds at the front of a text. -/
structure Reading (α : Type) where
  /-- The number of characters read. -/
  length : Nat
  value : α
  deriving DecidableEq, Repr

/-- The same characters, standing for something else. -/
def Reading.map {α β : Type} (f : α → β) (r : Reading α) : Reading β := ⟨r.length, f r.value⟩

/-- What a rule finds, or the construct that it does not find closed. -/
abbrev Finding (α : Type) := Except Delimited (Reading α)

/-- The value of a reading, with the bytes that were read. -/
structure Lexed (α : Type) where
  value : α
  span : Span
  deriving DecidableEq, Repr

/-- Moves a cursor over what a rule finds ahead of it, or to the end of the text. -/
def Cursor.read {α : Type} (k : Cursor) (found : Finding α) : Except ScanError (Lexed α) × Cursor :=
  match found with
  | .ok r => (.ok ⟨r.value, (k.advance r.length).spanFrom k.offset⟩, k.advance r.length)
  | .error construct => (.error ⟨construct, k.position⟩, k.finish)

end EcmaLex
