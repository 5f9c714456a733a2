import EcmaLex.Declaration.Lexer

/-!
# Readers of declarations

A reader takes something from the front of a list of tokens, or fails and takes nothing. Delimited
groups are taken as a whole; what is inside is then read on its own.

## Main definitions

* `EcmaLex.Declaration.Reader` : readers.
* `EcmaLex.Declaration.Reader.group` : a delimited group.
* `EcmaLex.Declaration.Reader.whole` : a reader on the whole of given tokens.
-/

namespace EcmaLex.Declaration

/-- Takes something from the front of a list of tokens. -/
abbrev Reader := StateT (List Token) Option

namespace Reader

/-- The tokens ahead. -/
def ahead : Reader (List Token) := get

/-- Whether nothing is ahead. -/
def atEnd : Reader Bool := return (← ahead).isEmpty

/-- Takes one token that satisfies a predicate. -/
def token (p : Token → Bool) : Reader Token := do
  match ← ahead with
  | t :: rest =>
    guard (p t)
    set rest
    return t
  | [] => failure

/-- Takes a keyword. -/
def keyword (word : String) : Reader Unit := discard (token (· == .ident false word))

/-- Takes punctuation characters with nothing between them. -/
def symbol (text : String) : Reader Unit := go text.toList
where
  /-- Takes the characters one by one; another follows at once on all but the last. -/
  go : List Char → Reader Unit
    | [] => return
    | [c] => discard (token fun | .punct d _ => c == d | _ => false)
    | c :: rest => do
      discard (token (· == .punct c true))
      go rest

/-- Whether a reader would succeed; nothing is taken. -/
def sees {α : Type} (r : Reader α) : Reader Bool := do
  return (r.run (← ahead)).isSome

/-- Takes what a reader reads if it succeeds, and tells whether it did. -/
def takes {α : Type} (r : Reader α) : Reader Bool := (r *> pure true) <|> pure false

/-- What a reader reads, together with the tokens that it takes. -/
def withTokens {α : Type} (r : Reader α) : Reader (α × List Token) := do
  let before ← ahead
  let a ← r
  let after ← ahead
  return (a, before.take (before.length - after.length))

/-- Takes an identifier that is no keyword. -/
def ident : Reader Token :=
  token fun
    | .ident raw name => raw || !keywords.contains name
    | _ => false

/-- Takes an identifier or a low line. -/
def identOrBlank : Reader Token := ident <|> token (· == .ident false "_")

/-- Takes a lifetime. -/
def lifetime : Reader Unit := discard (token fun | .lifetime _ => true | _ => false)

/-- Takes a string literal and gives its value. -/
def string : Reader String := do
  match ← token (fun | .string .. => true | _ => false) with
  | .string _ value => return value
  | _ => failure

/-- Takes a literal of any kind. -/
def anyLiteral : Reader Unit :=
  discard (token fun
    | .string .. | .literal _ => true
    | t => t == .ident false "true" || t == .ident false "false")

/-- Splits tokens at the delimiter that closes the one before them; `depth` counts the others that
are open. -/
def closeGroup? : Nat → List Token → Option (List Token × List Token)
  | _, [] => none
  | 0, .closing _ :: rest => some ([], rest)
  | depth + 1, .closing d :: rest =>
    (closeGroup? depth rest).map fun (inner, after) => (.closing d :: inner, after)
  | depth, .opening d :: rest =>
    (closeGroup? (depth + 1) rest).map fun (inner, after) => (.opening d :: inner, after)
  | depth, t :: rest => (closeGroup? depth rest).map fun (inner, after) => (t :: inner, after)

/-- Takes a delimited group and gives the tokens inside. -/
def group (d : Delimiter) : Reader (List Token) := do
  discard (token (· == .opening d))
  let (inner, rest) ← closeGroup? 0 (← ahead)
  set rest
  return inner

/-- Takes a delimited group of any kind and tells which. -/
def anyGroup : Reader Delimiter := do
  match ← ahead with
  | .opening d :: _ =>
    discard (group d)
    return d
  | _ => failure

/-- What a reader reads from given tokens, all of which it must take. -/
def whole {α : Type} (r : Reader α) (tokens : List Token) : Reader α := do
  let (a, rest) ← r.run tokens
  guard rest.isEmpty
  return a

/-- Takes tokens one by one, groups as a whole, up to one that satisfies a predicate or to the
end; `fuel` bounds their number. -/
def skipUntil (stop : Token → Bool) : Nat → Reader Unit
  | 0 => return
  | fuel + 1 => do
    match ← ahead with
    | [] => return
    | t :: _ =>
      if stop t then return
      unless ← takes anyGroup do discard (token fun _ => true)
      skipUntil stop fuel

/-- Takes the tokens of an expression up to one that satisfies a predicate; there must be some. -/
def expression (stop : Token → Bool) : Reader Unit := do
  let before ← ahead
  skipUntil stop before.length
  guard ((← ahead).length < before.length)

/-- Whether a token is a given punctuation character. -/
def isPunct (c : Char) : Token → Bool
  | .punct d _ => c == d
  | _ => false

/-- The items of a list with commas between them, up to the end of the tokens; a comma may follow
the last item. There are at most `fuel` items. -/
def commaListUpTo {α : Type} (item : Reader α) : Nat → Reader (List α)
  | 0 => return []
  | fuel + 1 => do
    if ← atEnd then return []
    let a ← item
    if ← atEnd then return [a]
    symbol ","
    return a :: (← commaListUpTo item fuel)

/-- The items of a list that takes all given tokens. -/
def commaList {α : Type} (item : Reader α) (tokens : List Token) : Reader (List α) :=
  whole (commaListUpTo item tokens.length) tokens

/-- What a reader reads from a text, all tokens of which it must take. -/
def readText {α : Type} (r : Reader α) (text : String) : Option α := do
  let tokens ← tokens? text
  let (a, rest) ← r.run tokens
  guard rest.isEmpty
  return a

end Reader

end EcmaLex.Declaration
