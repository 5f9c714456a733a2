import EcmaLex.Declaration.Token
import EcmaLex.Pattern.Parser

/-!
# Cutting declarations into tokens

Blanks and comments separate tokens; block comments nest. The delimiters of the whole text must
match.

## Main definitions

* `EcmaLex.Declaration.tokens?` : the tokens of a text.
-/

namespace EcmaLex.Declaration

/-- Whether a character starts an identifier. -/
def isIdentStart (c : Char) : Bool := c == '_' || Unicode.isLetter c

/-- Whether a character continues an identifier. -/
def isIdentPart (c : Char) : Bool := Unicode.isWordCharacter c

/-- The punctuation characters. -/
def punctuation : List Char := "~!@#$%^&*-=+|;:,<.>/?'".toList

/-! ### Comments -/

/-- The text of a block comment behind its start, and what follows its end. Comments inside it are
closed first; `depth` counts those that are open. -/
def blockComment? : Nat → List Char → Option (List Char × List Char)
  | _, [] | _, [_] => none
  | 0, '*' :: '/' :: rest => some ([], rest)
  | depth + 1, '*' :: '/' :: rest =>
    (blockComment? depth rest).map fun (text, after) => ('*' :: '/' :: text, after)
  | depth, '/' :: '*' :: rest =>
    (blockComment? (depth + 1) rest).map fun (text, after) => ('/' :: '*' :: text, after)
  | depth, c :: d :: rest =>
    (blockComment? depth (d :: rest)).map fun (text, after) => (c :: text, after)

/-- The attribute that a documentation comment stands for. -/
def documentation (inner : Bool) (text : List Char) : List Token :=
  let value := String.ofList text
  [.punct '#' inner] ++ (if inner then [.punct '!' false] else []) ++
    [.opening .bracket, .ident false "doc", .punct '=' false, .string value value,
      .closing .bracket]

/-- Reads what follows two slashes. -/
def readLineComment (text : List Char) : List Token × List Char :=
  let line := text.takeWhile (· != '\n')
  let rest := text.drop line.length
  match line with
  | '/' :: '/' :: _ => ([], rest)
  | '/' :: line => (documentation false line, rest)
  | '!' :: line => (documentation true line, rest)
  | _ => ([], rest)

/-- Reads what follows a slash and an asterisk. -/
def readBlockComment (text : List Char) : Option (List Token × List Char) := do
  let (body, rest) ← blockComment? 0 text
  match body with
  | '*' :: '*' :: _ | ['*'] => return ([], rest)
  | '*' :: body => return (documentation false body, rest)
  | '!' :: body => return (documentation true body, rest)
  | _ => return ([], rest)

/-! ### Literals -/

/-- The character that a backslash and what follows stand for, and what comes then. A backslash at
the end of a line stands for nothing. -/
def readEscape : List Char → Option (Option Char × List Char)
  | 'n' :: rest => some (some '\n', rest)
  | 'r' :: rest => some (some '\r', rest)
  | 't' :: rest => some (some '\t', rest)
  | '0' :: rest => some (some '\x00', rest)
  | '\\' :: rest => some (some '\\', rest)
  | '\'' :: rest => some (some '\'', rest)
  | '"' :: rest => some (some '"', rest)
  | '\n' :: rest => some (none, rest.dropWhile Unicode.isBlank)
  | 'x' :: rest =>
    match Pattern.readCodePoint 2 rest with
    | .ok (c, rest) => some (some c, rest)
    | .error _ => none
  | 'u' :: '{' :: rest =>
    match Pattern.readCodePoint 4 ('{' :: rest.filter (· != '_')) with
    | .ok (c, _) => some (some c, (rest.dropWhile (· != '}')).tail)
    | .error _ => none
  | _ => none

/-- The value of a string literal behind its opening quote, and what follows its closing quote;
`fuel` bounds the number of characters. -/
def stringValue? : Nat → List Char → Option (List Char × List Char)
  | 0, _ | _, [] => none
  | _ + 1, '"' :: rest => some ([], rest)
  | fuel + 1, '\\' :: rest => do
    let (c, rest) ← readEscape rest
    let (value, after) ← stringValue? fuel rest
    return (c.toList ++ value, after)
  | fuel + 1, '\r' :: '\n' :: rest => do
    let (value, after) ← stringValue? fuel rest
    return ('\n' :: value, after)
  | _ + 1, '\r' :: _ => none
  | fuel + 1, c :: rest => do
    let (value, after) ← stringValue? fuel rest
    return (c :: value, after)

/-- The value of a raw string behind its opening quote, and what follows its closing quote and as
many number signs. -/
def rawStringValue? (signs : Nat) : List Char → Option (List Char × List Char)
  | [] => none
  | c :: rest =>
    if c == '"' && (List.replicate signs '#').isPrefixOf rest then some ([], rest.drop signs)
    else (rawStringValue? signs rest).map fun (value, after) => (c :: value, after)

/-- The value of a string literal, raw or not, and what follows it. -/
def readString? : List Char → Option (List Char × List Char)
  | '"' :: rest => stringValue? (rest.length + 1) rest
  | 'r' :: rest =>
    let signs := (rest.takeWhile (· == '#')).length
    match rest.drop signs with
    | '"' :: body => rawStringValue? signs body
    | _ => none
  | _ => none

/-- Drops the suffix of a literal. -/
def dropSuffix (text : List Char) : List Char :=
  if text.head?.any isIdentStart then text.dropWhile isIdentPart else text

/-- The characters of `text` before `rest`, which ends it. -/
def before (text rest : List Char) : String :=
  String.ofList (text.take (text.length - rest.length))

/-- Reads a character behind its opening quote. -/
def readCharacter? : List Char → Option (List Char)
  | '\\' :: rest => do
    let (_, rest) ← readEscape rest
    match rest with
    | '\'' :: rest => return rest
    | _ => none
  | c :: '\'' :: rest => if c == '\'' then none else some rest
  | _ => none

/-- Reads a number: letters, digits and low lines, and points before digits. -/
def dropNumber : List Char → List Char
  | '.' :: c :: rest => if c.isDigit then dropNumber (c :: rest) else '.' :: c :: rest
  | c :: rest => if isIdentPart c then dropNumber rest else c :: rest
  | [] => []

/-! ### Tokens -/

/-- Reads a token that starts with a quote: a character or a lifetime. -/
def readQuote (text : List Char) : Option (List Token × List Char) :=
  match readCharacter? text with
  | some rest => some ([.literal ("'" ++ before text rest)], dropSuffix rest)
  | none =>
    if text.head?.any isIdentStart then
      let name := text.takeWhile isIdentPart
      some ([.lifetime (String.ofList name)], text.drop name.length)
    else none

/-- Reads an identifier. -/
def readIdent (raw : Bool) (text : List Char) : Option (List Token × List Char) :=
  let name := text.takeWhile isIdentPart
  let word := String.ofList name
  if raw && ["_", "crate", "self", "super", "Self"].contains word then none
  else some ([.ident raw word], text.drop name.length)

/-- Reads a string or character literal of bytes, behind the letter that marks it. -/
def readMarked? (text : List Char) : Option (List Char) :=
  match readString? text with
  | some (_, rest) => some rest
  | none =>
    match text with
    | '\'' :: text => readCharacter? text
    | _ => none

/-- Reads a token that starts like an identifier. -/
def readWord (text : List Char) : Option (List Token × List Char) :=
  match text with
  | 'r' :: '#' :: c :: rest =>
    if isIdentStart c then readIdent true (c :: rest)
    else (readString? text).map fun (value, rest) =>
      ([.string (before text rest) (String.ofList value)], dropSuffix rest)
  | 'r' :: '"' :: _ =>
    (readString? text).map fun (value, rest) =>
      ([.string (before text rest) (String.ofList value)], dropSuffix rest)
  | c :: rest =>
    match if c == 'b' || c == 'c' then readMarked? rest else none with
    | some rest => some ([.literal (before text rest)], dropSuffix rest)
    | none => readIdent false text
  | [] => none

/-- The delimiter that a character opens. -/
def opened? (c : Char) : Option Delimiter := Delimiter.all.find? (·.opening == c)

/-- The delimiter that a character closes. -/
def closed? (c : Char) : Option Delimiter := Delimiter.all.find? (·.closing == c)

/-- Reads what a text starts with: blanks, a comment or a token. -/
def readToken : List Char → Option (List Token × List Char)
  | [] => none
  | '/' :: '/' :: rest => some (readLineComment rest)
  | '/' :: '*' :: rest => readBlockComment rest
  | '\'' :: rest => readQuote rest
  | '"' :: rest =>
    (readString? ('"' :: rest)).map fun (value, after) =>
      ([.string (before ('"' :: rest) after) (String.ofList value)], dropSuffix after)
  | c :: rest =>
    if Unicode.isBlank c then some ([], rest)
    else if c.isDigit then
      let after := dropNumber rest
      some ([.literal (before (c :: rest) after)], after)
    else if isIdentStart c then readWord (c :: rest)
    else
      match opened? c, closed? c with
      | some d, _ => some ([.opening d], rest)
      | _, some d => some ([.closing d], rest)
      | none, none =>
        if punctuation.contains c then
          some ([.punct c (rest.head?.any punctuation.contains)], rest)
        else none

/-- The tokens of a text, which takes at most `fuel` steps to read. -/
def tokensUpTo : Nat → List Char → Option (List Token)
  | 0, _ | _, [] => some []
  | fuel + 1, text => do
    let (tokens, rest) ← readToken text
    return tokens ++ (← tokensUpTo fuel rest)

/-- The delimiters that are open behind a token, the last one first. -/
def openDelimiters (open_ : List Delimiter) : Token → Option (List Delimiter)
  | .opening d => some (d :: open_)
  | .closing d =>
    match open_ with
    | e :: open_ => if d = e then some open_ else none
    | [] => none
  | _ => some open_

/-- The tokens of a text. -/
def tokens? (text : String) : Option (List Token) := do
  let tokens ← tokensUpTo text.toList.length text.toList
  guard ((← tokens.foldlM openDelimiters []).isEmpty)
  return tokens

end EcmaLex.Declaration
