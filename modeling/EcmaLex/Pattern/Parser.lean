import EcmaLex.Pattern.Basic
import EcmaLex.Unicode.Blank
import EcmaLex.Unicode.CaseFolding
import EcmaLex.Unicode.DecimalDigit
import EcmaLex.Unicode.Letter

/-!
# Reading search patterns

A written pattern is cut into pieces: sets of characters, anchors, repetitions, bars and the two
ends of groups. The pieces are then put together on a stack with one frame for each open group. A
frame knows which flags are in force; flags set inside a group last until the group ends.

## Main definitions

* `EcmaLex.PatternError` : what can be wrong with a written pattern.
* `EcmaLex.Pattern.Piece` : the pieces of written patterns.
* `EcmaLex.Pattern.pieces` : the pieces of a written pattern.
* `EcmaLex.Pattern.parse` : the pattern that a text writes.
-/

namespace EcmaLex

/-- Reasons for which a text writes no pattern. -/
inductive PatternError
  | unclosedGroup
  | unopenedGroup
  | unclosedSet
  /-- A bracketed set holds another one, or an operation on sets. -/
  | nestedSet
  | reversedRange
  /-- An end of a range of characters is not one character. -/
  | rangeEnd
  | nothingToRepeat
  | repetitionBounds
  | reversedRepetition
  | unknownEscape
  /-- A code point is not written as one. -/
  | codePoint
  | unknownProperty
  | unknownGroup
  /-- The flags of a group are none, unknown or repeated. -/
  | badFlags
  deriving DecidableEq, Repr

/-- What a refused pattern is reported as. -/
def PatternError.message (_ : PatternError) : String :=
  "Invalid character class pattern: regex parse error:"

namespace Pattern

/-- The flags in force at a place in a pattern. -/
structure Flags where
  ignoreCase : Bool := false
  /-- Whether a dot matches the line feed too. -/
  dotAll : Bool := false
  /-- Whether the anchors hold at the ends of lines too. -/
  multiLine : Bool := false
  deriving DecidableEq, Repr

/-- A flag letter, and whether it is switched on. -/
abbrev FlagChange := Char × Bool

/-- The flags after a change. -/
def Flags.set (flags : Flags) : FlagChange → Flags
  | ('i', on) => { flags with ignoreCase := on }
  | ('s', on) => { flags with dotAll := on }
  | ('m', on) => { flags with multiLine := on }
  | _ => flags

/-- The pieces of written patterns. A `set` is one character of a set, or one outside it, and a
`dot` any character, or any but the line feed. Changes of flags are for the rest of the group, or
for the group that opens with them alone. A `bar` ends one choice and starts the next. -/
inductive Piece
  | set (negated : Bool) (members : CharSet)
  | dot
  | caret
  | dollar
  | anchor (a : Anchor)
  | flags (changes : List FlagChange)
  | openGroup (changes : List FlagChange)
  | closeGroup
  | bar
  | repetition (least : Nat) (most : Option Nat)

/-! ### Characters, escapes and sets -/

/-- A character by its number, if the number is a Unicode scalar value. -/
def scalar? (n : Nat) : Option Char :=
  if n.isValidChar then some (Char.ofNat n) else none

/-- The value of a hexadecimal digit. -/
def hexDigit? (c : Char) : Option Nat :=
  if c.isDigit then some (c.toNat - '0'.toNat)
  else if 'a' ≤ c ∧ c ≤ 'f' then some (c.toNat - 'a'.toNat + 10)
  else if 'A' ≤ c ∧ c ≤ 'F' then some (c.toNat - 'A'.toNat + 10)
  else none

/-- The number that hexadecimal digits write; none when a character is no digit or there is
none. -/
def hexNumber? (digits : List Char) : Option Nat :=
  if digits.isEmpty then none
  else digits.foldlM (fun n c => (hexDigit? c).map (16 * n + ·)) 0

/-- Reads a code point: `width` hexadecimal digits, or any number of them in braces. -/
def readCodePoint (width : Nat) (text : List Char) : Except PatternError (Char × List Char) :=
  let (digits, rest) :=
    match text with
    | '\x7b' :: text =>
      let digits := text.takeWhile (· != '\x7d')
      (digits, (text.drop digits.length).tail?)
    | text => (text.take width, if width ≤ text.length then some (text.drop width) else none)
  match rest, hexNumber? digits >>= scalar? with
  | some rest, some c => .ok (c, rest)
  | _, _ => .error .codePoint

/-- The name of a property without case, blanks, hyphens and low lines. -/
def normalizeName (name : List Char) : String :=
  String.ofList ((name.filter fun c => !(c == ' ' || c == '-' || c == '_')).map Char.toLower)

/-- The set of the characters with a named property. -/
def property? (name : List Char) : Option CharSet :=
  match normalizeName name with
  | "l" | "letter" => some Unicode.isLetter
  | "nd" | "decimalnumber" | "digit" => some Unicode.isDecimalDigit
  | _ => none

/-- Reads the name of a property: one letter, or a name in braces that a caret may negate. -/
def readProperty (negated : Bool) (text : List Char) :
    Except PatternError (Piece × List Char) :=
  let (name, rest) :=
    match text with
    | '\x7b' :: text =>
      let name := text.takeWhile (· != '\x7d')
      (name, (text.drop name.length).tail?)
    | text => (text.take 1, some (text.drop 1))
  let (negated, name) :=
    match name with
    | '^' :: name => (!negated, name)
    | name => (negated, name)
  match rest, property? name with
  | some rest, some members => .ok (.set negated members, rest)
  | _, _ => .error .unknownProperty

/-- The set with the one member `c`. -/
def only (c : Char) : CharSet := (· == c)

/-- Reads what follows a backslash: a set, an anchor, or a character that stands for itself. -/
def readEscape : List Char → Except PatternError (Piece × List Char)
  | [] => .error .unknownEscape
  | c :: rest =>
    match c with
    | 'd' => .ok (.set false Unicode.isDecimalDigit, rest)
    | 'D' => .ok (.set true Unicode.isDecimalDigit, rest)
    | 'w' => .ok (.set false Unicode.isWordCharacter, rest)
    | 'W' => .ok (.set true Unicode.isWordCharacter, rest)
    | 's' => .ok (.set false Unicode.isBlank, rest)
    | 'S' => .ok (.set true Unicode.isBlank, rest)
    | 'p' => readProperty false rest
    | 'P' => readProperty true rest
    | 'b' => .ok (.anchor .wordBoundary, rest)
    | 'B' => .ok (.anchor .wordInterior, rest)
    | 'A' => .ok (.anchor .textStart, rest)
    | 'z' => .ok (.anchor .textEnd, rest)
    | c => (readCharacterEscape c rest).map fun (c, rest) => (.set false (only c), rest)
where
  /-- Reads what follows a backslash and the character `c` where a single character is meant. -/
  readCharacterEscape (c : Char) (rest : List Char) : Except PatternError (Char × List Char) :=
    match c with
    | 'a' => .ok ('\x07', rest)
    | 'f' => .ok ('\x0c', rest)
    | 't' => .ok ('\t', rest)
    | 'n' => .ok ('\n', rest)
    | 'r' => .ok ('\r', rest)
    | 'v' => .ok ('\x0b', rest)
    | 'x' => readCodePoint 2 rest
    | 'u' => readCodePoint 4 rest
    | 'U' => readCodePoint 8 rest
    | c =>
      if 0x80 ≤ c.toNat || c.isAlphanum || c == '<' || c == '>' then .error .unknownEscape
      else .ok (c, rest)

/-- An item of a bracketed set: a character, which may be the end of a range, or a set. -/
inductive SetItem
  | char (c : Char)
  | set (members : CharSet)

/-- The characters of an item. -/
def SetItem.members : SetItem → CharSet
  | char c => only c
  | set members => members

/-- Reads an item of a bracketed set. -/
def readSetItem : List Char → Except PatternError (SetItem × List Char)
  | [] => .error .unclosedSet
  | '[' :: _ => .error .nestedSet
  | '\\' :: [] => .error .unknownEscape
  | '\\' :: c :: rest =>
    if c ∈ ['d', 'D', 'w', 'W', 's', 'S', 'p', 'P'] then
      match readEscape (c :: rest) with
      | .ok (.set negated members, rest) => .ok (.set fun c => members c != negated, rest)
      | .ok _ => .error .unknownEscape
      | .error e => .error e
    else
      (readEscape.readCharacterEscape c rest).map fun (c, rest) => (.char c, rest)
  | c :: rest => .ok (.char c, rest)

/-- Whether a place in a bracketed set starts an operation on sets. -/
def startsSetOperation : List Char → Bool
  | '&' :: '&' :: _ | '-' :: '-' :: _ | '~' :: '~' :: _ => true
  | _ => false

/-- Reads the items of a bracketed set and the bracket behind them; `fuel` bounds their number, and
`members` holds those read before. -/
def readSetItems : Nat → CharSet → List Char → Except PatternError (CharSet × List Char)
  | 0, _, _ => .error .unclosedSet
  | _ + 1, _, [] => .error .unclosedSet
  | _ + 1, members, ']' :: rest => .ok (members, rest)
  | fuel + 1, members, text => do
    if startsSetOperation text then throw .nestedSet
    let (first, rest) ← readSetItem text
    match rest with
    | '-' :: ']' :: _ | '-' :: '-' :: _ =>
      readSetItems fuel (fun c => members c || first.members c) rest
    | '-' :: after =>
      let (last, rest) ← readSetItem after
      match first, last with
      | .char lo, .char hi =>
        if hi < lo then throw .reversedRange
        readSetItems fuel (fun c => members c || (lo ≤ c && c ≤ hi)) rest
      | _, _ => throw .rangeEnd
    | rest => readSetItems fuel (fun c => members c || first.members c) rest

/-- Reads what follows an opening bracket. A caret negates the set; hyphens, or else a closing
bracket, that come first stand for themselves. -/
def readSet (text : List Char) : Except PatternError (Piece × List Char) := do
  let (negated, text) :=
    match text with
    | '^' :: text => (true, text)
    | text => (false, text)
  let hyphens := text.takeWhile (· == '-')
  let text := text.drop hyphens.length
  let (closing, text) :=
    match hyphens, text with
    | [], ']' :: text => ([']'], text)
    | _, text => ([], text)
  let members : CharSet := fun c => (hyphens ++ closing).contains c
  let (members, rest) ← readSetItems (text.length + 1) members text
  return (.set negated members, rest)

/-! ### Repetitions and groups -/

/-- Drops the question mark that asks for the shortest match; it does not change what matches. -/
def dropLazy : List Char → List Char
  | '?' :: rest => rest
  | rest => rest

/-- The greatest number that the bounds of a repetition may be. -/
def greatestBound : Nat := 4294967295

/-- Reads a number between blanks. -/
def readBound? (text : List Char) : Option Nat × List Char :=
  let text := text.dropWhile Unicode.isBlank
  let digits := text.takeWhile Char.isDigit
  let n := digits.foldl (fun n c => 10 * n + (c.toNat - '0'.toNat)) 0
  let rest := (text.drop digits.length).dropWhile Unicode.isBlank
  (if digits.isEmpty || greatestBound < n then none else some n, rest)

/-- Reads what follows the brace that opens the bounds of a repetition. -/
def readBounds (text : List Char) : Except PatternError (Piece × List Char) :=
  match readBound? text with
  | (some n, '\x7d' :: rest) => .ok (.repetition n (some n), dropLazy rest)
  | (some n, ',' :: rest) =>
    match rest.dropWhile Unicode.isBlank with
    | '\x7d' :: rest => .ok (.repetition n none, dropLazy rest)
    | rest =>
      match readBound? rest with
      | (some m, '\x7d' :: rest) =>
        if m < n then .error .reversedRepetition
        else .ok (.repetition n (some m), dropLazy rest)
      | _ => .error .repetitionBounds
  | _ => .error .repetitionBounds

/-- Reads flag letters up to the colon or parenthesis behind them. A hyphen switches off the flags
after it. -/
def readFlags (on : Bool) (read : List FlagChange) :
    List Char → Except PatternError (List FlagChange × List Char)
  | [] => .error .unclosedGroup
  | c :: rest =>
    if c == ':' || c == ')' then
      if !on && (read.getLast?.all (·.2)) then .error .badFlags else .ok (read, c :: rest)
    else if c == '-' then
      if on then readFlags false read rest else .error .badFlags
    else if "imsU".contains c || (c == 'u' && on) then
      if read.any (·.1 == c) then .error .badFlags else readFlags on (read ++ [(c, on)]) rest
    else .error .badFlags

/-- Drops the name of a group and the angle bracket behind it. -/
def dropGroupName (text : List Char) : Except PatternError (List Char) :=
  let name := text.takeWhile (· != '>')
  let isStart (c : Char) := c == '_' || Unicode.isLetter c
  let isPart (c : Char) := isStart c || Unicode.isDecimalDigit c || c == '.' || c == '[' || c == ']'
  match name, text.drop name.length with
  | first :: others, '>' :: rest =>
    if isStart first && others.all isPart then .ok rest else .error .unknownGroup
  | _, _ => .error .unknownGroup

/-- Reads what follows an opening parenthesis. -/
def readGroup : List Char → Except PatternError (Piece × List Char)
  | '?' :: '=' :: _ | '?' :: '!' :: _ | '?' :: '<' :: '=' :: _ | '?' :: '<' :: '!' :: _ =>
    .error .unknownGroup
  | '?' :: 'P' :: '<' :: rest | '?' :: '<' :: rest => do
    return (.openGroup [], ← dropGroupName rest)
  | '?' :: rest => do
    let (changes, rest) ← readFlags true [] rest
    match changes, rest with
    | [], ')' :: _ => throw .badFlags
    | changes, ')' :: rest => return (.flags changes, rest)
    | changes, rest => return (.openGroup changes, rest.tail)
  | rest => .ok (.openGroup [], rest)

/-! ### Pieces -/

/-- Reads the first piece of a pattern that starts with `c`. -/
def readPiece (c : Char) (rest : List Char) : Except PatternError (Piece × List Char) :=
  match c with
  | '\\' => readEscape rest
  | '[' => readSet rest
  | '(' => readGroup rest
  | ')' => .ok (.closeGroup, rest)
  | '|' => .ok (.bar, rest)
  | '.' => .ok (.dot, rest)
  | '^' => .ok (.caret, rest)
  | '$' => .ok (.dollar, rest)
  | '*' => .ok (.repetition 0 none, dropLazy rest)
  | '+' => .ok (.repetition 1 none, dropLazy rest)
  | '?' => .ok (.repetition 0 (some 1), dropLazy rest)
  | '\x7b' => readBounds rest
  | c => .ok (.set false (only c), rest)

/-- The pieces of a written pattern, of which there are at most `fuel`. -/
def piecesUpTo : Nat → List Char → Except PatternError (List Piece)
  | 0, _ | _, [] => .ok []
  | fuel + 1, c :: rest => do
    let (piece, rest) ← readPiece c rest
    return piece :: (← piecesUpTo fuel rest)

/-- The pieces of a written pattern; each takes at least one character. -/
def pieces (text : List Char) : Except PatternError (List Piece) := piecesUpTo text.length text

/-! ### Building -/

/-- An open group: what has been read of it. -/
structure Frame where
  flags : Flags
  /-- The choices that bars have ended, the last one first. -/
  choices : List Pattern := []
  /-- The parts of the present choice, the last one first. -/
  parts : List Pattern := []
  /-- Whether the last piece can be repeated. -/
  repeatable : Bool := false

namespace Frame

/-- The present choice as one pattern. -/
def choice (f : Frame) : Pattern := f.parts.foldl (fun p q => .seq q p) .empty

/-- The group as one pattern. -/
def pattern (f : Frame) : Pattern := f.choices.foldl (fun p q => .alt q p) f.choice

/-- The group with one more part. -/
def push (f : Frame) (p : Pattern) : Frame :=
  { f with parts := p :: f.parts, repeatable := true }

/-- The set of the characters that differ from a member in case only. -/
def caseless (members : CharSet) : CharSet := fun c => (Unicode.caseVariants c).any members

/-- The pattern of a set under the flags of the group. -/
def setPattern (f : Frame) (negated : Bool) (members : CharSet) : Pattern :=
  let members := if f.flags.ignoreCase then caseless members else members
  .set fun c => members c != negated

end Frame

/-- The open groups after one more piece: the innermost, and those around it. -/
def addPiece : Frame × List Frame → Piece → Except PatternError (Frame × List Frame)
  | (f, outer), .set negated members => .ok (f.push (f.setPattern negated members), outer)
  | (f, outer), .dot =>
    .ok (f.push (.set fun c => f.flags.dotAll || c != '\n'), outer)
  | (f, outer), .caret =>
    .ok (f.push (.anchor (if f.flags.multiLine then .lineStart else .textStart)), outer)
  | (f, outer), .dollar =>
    .ok (f.push (.anchor (if f.flags.multiLine then .lineEnd else .textEnd)), outer)
  | (f, outer), .anchor a => .ok (f.push (.anchor a), outer)
  | (f, outer), .flags changes =>
    .ok ({ f with flags := changes.foldl Flags.set f.flags, repeatable := false }, outer)
  | (f, outer), .openGroup changes =>
    .ok ({ flags := changes.foldl Flags.set f.flags }, f :: outer)
  | (f, g :: outer), .closeGroup => .ok (g.push f.pattern, outer)
  | (_, []), .closeGroup => .error .unopenedGroup
  | (f, outer), .bar =>
    .ok ({ flags := f.flags, choices := f.choice :: f.choices }, outer)
  | (f, outer), .repetition least most =>
    match f.repeatable, f.parts with
    | true, p :: parts =>
      .ok ({ f with parts := .repeated p least most :: parts, repeatable := true }, outer)
    | _, _ => .error .nothingToRepeat

/-- The pattern that a text writes. -/
def parse (text : String) : Except PatternError Pattern := do
  let read ← pieces text.toList
  match ← read.foldlM addPiece ({ flags := {} }, []) with
  | (f, []) => return f.pattern
  | (_, _ :: _) => throw .unclosedGroup

end Pattern

end EcmaLex
