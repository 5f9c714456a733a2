import EcmaLex.Reading

/-!
# Comments

A line comment runs from two slashes to the end of the line, which is left where it is. A block
comment runs from a slash and an asterisk to the first asterisk and slash behind them.

The rules do not look at the two characters that open a comment; whether a comment is ahead is a
question of its own.

## Main definitions

* `EcmaLex.Grammar.blockText?` : the text before the first closing delimiter.
* `EcmaLex.Grammar.lineComment`, `EcmaLex.Grammar.blockComment`, `EcmaLex.Grammar.comment` : the
  rules.
-/

namespace EcmaLex.Grammar

/-- Whether a text starts with the delimiter that opens a line comment. -/
def startsLineComment : List Char → Bool
  | '/' :: '/' :: _ => true
  | _ => false

/-- Whether a text starts with the delimiter that opens a block comment. -/
def startsBlockComment : List Char → Bool
  | '/' :: '*' :: _ => true
  | _ => false

/-- Whether a text starts with the delimiter that opens a comment. -/
def startsComment (text : List Char) : Bool := startsBlockComment text || startsLineComment text

/-- Whether a text starts with the delimiter that closes a block comment. -/
def startsBlockClose : List Char → Bool
  | '*' :: '/' :: _ => true
  | _ => false

/-- The characters before the first delimiter that closes a block comment. -/
def blockText? : List Char → Option (List Char)
  | [] => none
  | c :: rest => if startsBlockClose (c :: rest) then some [] else (blockText? rest).map (c :: ·)

/-- A comment and its form. -/
structure Comment where
  isBlock : Bool
  /-- The characters between its delimiters. -/
  text : List Char
  deriving DecidableEq, Repr

/-- Reads a line comment: two characters and the rest of the line. -/
def lineComment (text : List Char) : Reading Comment :=
  let body := (text.drop 2).takeWhile fun c => !isLineTerminator c
  ⟨(text.take 2).length + body.length, ⟨false, body⟩⟩

/-- Reads a block comment: two characters, and all up to the closing delimiter and with it. -/
def blockComment (text : List Char) : Finding Comment :=
  match blockText? (text.drop 2) with
  | some body => .ok ⟨2 + body.length + 2, ⟨true, body⟩⟩
  | none => .error .blockComment

/-- Reads a block comment if one is ahead, and a line comment otherwise. -/
def comment (text : List Char) : Finding Comment :=
  if startsBlockComment text then blockComment text else .ok (lineComment text)

theorem comment_line (text : List Char) :
    comment ('/' :: '/' :: text) =
      .ok ⟨2 + (text.takeWhile fun c => !isLineTerminator c).length,
        ⟨false, text.takeWhile fun c => !isLineTerminator c⟩⟩ := rfl

theorem comment_block (text : List Char) :
    comment ('/' :: '*' :: text) =
      match blockText? text with
      | some body => .ok ⟨2 + body.length + 2, ⟨true, body⟩⟩
      | none => .error .blockComment := rfl

end EcmaLex.Grammar
