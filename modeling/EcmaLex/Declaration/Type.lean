import EcmaLex.Declaration.Reader

/-!
# Types in declarations

Of a type only its outer shape matters here: a type that a path names has segments, each an
identifier with its generic arguments, and all other types have none. All forms of types are
nevertheless read in full, since the text of a type ends where its form says.

## Main definitions

* `EcmaLex.Declaration.TypeShape` : types, by the segments that name them.
* `EcmaLex.Declaration.TypeShape.named?` : the segment with a given name.
* `EcmaLex.Declaration.Reader.type` : the reader of types.
-/

namespace EcmaLex.Declaration

/-- A part of a path: an identifier, and all its tokens with those of its generic arguments. -/
structure Segment where
  ident : Token
  tokens : List Token
  deriving DecidableEq, Repr

/-- A segment as it is written, without blanks. -/
def Segment.text (s : Segment) : String := sourceText s.tokens

/-- A type: one that a path names, or any other. -/
inductive TypeShape
  | path (segments : List Segment)
  | other
  deriving DecidableEq, Repr

/-- The first segment whose identifier is `name`. -/
def TypeShape.named? (name : String) : TypeShape → Option Segment
  | path segments => segments.find? fun s => s.ident.sourceText == name
  | other => none

namespace Reader

/-- Takes lifetimes with commas between them and the angle bracket behind them. -/
def lifetimesUpTo : Nat → Reader Unit
  | 0 => failure
  | fuel + 1 => do
    if ← takes (symbol ">") then return
    lifetime
    if ← takes (symbol ">") then return
    symbol ","
    lifetimesUpTo fuel

/-- Takes the lifetimes that a type or bound is read for. -/
def binder : Reader Unit := do
  keyword "for"
  symbol "<"
  lifetimesUpTo (← ahead).length

/-- Takes the words before the arguments of a function type. -/
def functionStart : Reader Unit := do
  discard (takes (keyword "unsafe"))
  if ← takes (keyword "extern") then discard (takes string)
  keyword "fn"

/-- Takes the identifier of a segment, which may be one of the words for the places where a path
starts. -/
def segmentIdent : Reader Token :=
  ident <|> token fun t => ["self", "Self", "super", "crate"].any fun word => t == .ident false word

/-- Takes the name of an argument of a function type, and the colon behind it. -/
def argumentName : Reader Unit := do
  discard identOrBlank
  guard !(← sees (symbol "::"))
  symbol ":"

mutual

/-- Takes a type. A sum of bounds is one if `plus` allows it. -/
def typeUpTo : Nat → Bool → Reader TypeShape
  | 0, _ => failure
  | fuel + 1, plus => do
    match ← ahead with
    | .opening .paren :: _ => do
      discard (commaList (typeUpTo fuel true) (← group .paren))
      return .other
    | .opening .bracket :: _ => do
      let element : Reader Unit := do
        discard (typeUpTo fuel true)
        if ← takes (symbol ";") then expression fun _ => false
      whole element (← group .bracket)
      return .other
    | .punct '!' _ :: _ => do
      symbol "!"
      return .other
    | .punct '*' _ :: _ => do
      symbol "*"
      keyword "const" <|> keyword "mut"
      discard (typeUpTo fuel false)
      return .other
    | .punct '&' _ :: _ => do
      symbol "&"
      discard (takes lifetime)
      discard (takes (keyword "mut"))
      discard (typeUpTo fuel false)
      return .other
    | .ident false "_" :: _ => do
      keyword "_"
      return .other
    | .ident false "impl" :: _ | .ident false "dyn" :: _ => do
      keyword "impl" <|> keyword "dyn"
      boundsUpTo fuel plus
      return .other
    | _ =>
      let bound ← takes binder
      if ← sees functionStart then
        functionUpTo fuel
        return .other
      if ← sees (symbol "<") then
        guard !bound
        return .path (← qualifiedUpTo fuel)
      let segments ← pathUpTo fuel
      if (← sees (symbol "!")) && !(← sees (symbol "!=")) then
        symbol "!"
        discard anyGroup
        return .other
      if plus && (← sees (symbol "+")) then
        moreBoundsUpTo fuel
        return .other
      return if bound then .other else .path segments

/-- Takes the type of a function. -/
def functionUpTo : Nat → Reader Unit
  | 0 => failure
  | fuel + 1 => do
    functionStart
    let argument : Reader Unit := do
      discard (takes argumentName)
      symbol "..." <|> discard (typeUpTo fuel true)
    discard (commaList argument (← group .paren))
    if ← takes (symbol "->") then discard (typeUpTo fuel false)

/-- Takes a path below a type in angle brackets; the type itself is no part of the path, but what
it is seen as is. -/
def qualifiedUpTo : Nat → Reader (List Segment)
  | 0 => failure
  | fuel + 1 => do
    symbol "<"
    discard (typeUpTo fuel true)
    let view ← if ← takes (keyword "as") then pathUpTo fuel else pure []
    symbol ">"
    symbol "::"
    return view ++ (← segmentsUpTo fuel)

/-- Takes a path. -/
def pathUpTo : Nat → Reader (List Segment)
  | 0 => failure
  | fuel + 1 => do
    discard (takes (symbol "::"))
    segmentsUpTo fuel

/-- Takes segments with double colons between them. -/
def segmentsUpTo : Nat → Reader (List Segment)
  | 0 => failure
  | fuel + 1 => do
    let (ident, tokens) ← withTokens (segmentUpTo fuel)
    let segment : Segment := ⟨ident, tokens⟩
    if ← takes (symbol "::") then return segment :: (← segmentsUpTo fuel)
    return [segment]

/-- Takes one segment and gives its identifier. -/
def segmentUpTo : Nat → Reader Token
  | 0 => failure
  | fuel + 1 => do
    let ident ← segmentIdent
    if ← takes (symbol "::" *> symbol "<") then argumentsUpTo fuel
    else if (← sees (symbol "<")) && !(← sees (symbol "<=")) then
      symbol "<"
      argumentsUpTo fuel
    else if let .opening .paren :: _ ← ahead then
      discard (commaList (typeUpTo fuel true) (← group .paren))
      if ← takes (symbol "->") then discard (typeUpTo fuel false)
    return ident

/-- Takes generic arguments and the angle bracket behind them. -/
def argumentsUpTo : Nat → Reader Unit
  | 0 => failure
  | fuel + 1 => do
    if ← takes (symbol ">") then return
    argumentUpTo fuel
    if ← takes (symbol ">") then return
    symbol ","
    argumentsUpTo fuel

/-- Takes one generic argument: a lifetime, a constant, a type, or a named one with its type or
bounds. -/
def argumentUpTo : Nat → Reader Unit
  | 0 => failure
  | fuel + 1 =>
    lifetime <|> anyLiteral <|> (symbol "-" *> anyLiteral) <|> discard (group .brace) <|>
    (do
      discard (segmentUpTo fuel)
      symbol "="
      anyLiteral <|> discard (group .brace) <|> discard (typeUpTo fuel true)) <|>
    (do
      discard (segmentUpTo fuel)
      symbol ":"
      boundsUpTo fuel true) <|>
    discard (typeUpTo fuel true)

/-- Takes a bound, and more of them behind plus signs if `plus` allows it. -/
def boundsUpTo : Nat → Bool → Reader Unit
  | 0, _ => failure
  | fuel + 1, plus => do
    boundUpTo fuel
    if plus then moreBoundsUpTo fuel

/-- Takes plus signs and bounds in turn, as long as there are any. -/
def moreBoundsUpTo : Nat → Reader Unit
  | 0 => failure
  | fuel + 1 => do
    if ← takes (symbol "+") then
      if ← takes (boundUpTo fuel) then moreBoundsUpTo fuel

/-- Takes one bound: a lifetime or a path. -/
def boundUpTo : Nat → Reader Unit
  | 0 => failure
  | fuel + 1 =>
    lifetime <|>
    (do whole (boundUpTo fuel) (← group .paren)) <|>
    (do
      discard (takes (symbol "?"))
      discard (takes binder)
      discard (pathUpTo fuel))

end

/-- How deep readers of types may call each other: a few levels for each token. -/
def depth : Reader Nat := return 8 * (← ahead).length + 16

/-- Takes a type. -/
def type : Reader TypeShape := do typeUpTo (← depth) true

/-- Takes a path. -/
def path : Reader (List Segment) := do pathUpTo (← depth)

/-- Takes the bounds of a type. -/
def bounds : Reader Unit := do boundsUpTo (← depth) true

end Reader

/-- The type that a text writes. -/
def TypeShape.parse? (text : String) : Option TypeShape := Reader.readText Reader.type text

end EcmaLex.Declaration
