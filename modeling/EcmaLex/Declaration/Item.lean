import EcmaLex.Declaration.Type

/-!
# Items

An item declares one thing: a type, a function, a constant and so on. Its attributes, the fields of
a structure and the variants of an enumeration are kept, all else is only read over. Bodies and
expressions may hold any tokens.

## Main definitions

* `EcmaLex.Declaration.Attribute` : an attribute, with its text if it has one.
* `EcmaLex.Declaration.Field` : a field of a structure.
* `EcmaLex.Declaration.Item` : an item with its attributes.
* `EcmaLex.Declaration.Item.documentable?` : the attributes of an item that can be documented.
-/

namespace EcmaLex.Declaration

/-- An attribute. -/
structure Attribute where
  path : String
  /-- The text that it gives to the path. -/
  text : Option String
  deriving DecidableEq, Repr

/-- A field of a structure. -/
structure Field where
  /-- Its name, if the fields have names. -/
  name : Option Token
  type : TypeShape
  deriving DecidableEq, Repr

/-- What an item declares. `documentable` is anything else that can be documented, and `other` is
what cannot be documented, or is incomplete. -/
inductive ItemKind
  | structureType (fields : List Field)
  | enumeration (variants : List Token)
  | documentable
  | other
  deriving DecidableEq, Repr

/-- An item with its attributes. -/
structure Item where
  attributes : List Attribute
  kind : ItemKind
  deriving DecidableEq, Repr

/-- The attributes of an item that can be documented. -/
def Item.documentable? (item : Item) : Option (List Attribute) :=
  match item.kind with
  | .other => none
  | _ => some item.attributes

namespace Reader

/-! ### Attributes and visibility -/

/-- Takes words with double colons between them, `fuel` at most. -/
def wordsUpTo : Nat → Reader Unit
  | 0 => failure
  | fuel + 1 => do
    discard (token fun | .ident .. => true | _ => false)
    if ← takes (symbol "::") then wordsUpTo fuel

/-- Takes a path without generic arguments. -/
def plainPath : Reader Unit := do
  discard (takes (symbol "::"))
  wordsUpTo (← ahead).length

/-- Takes what is between the brackets of an attribute. -/
def attributeBody : Reader Attribute := do
  let (_, tokens) ← withTokens plainPath
  let text ← (do
      symbol "="
      let value ← string
      guard (← atEnd)
      return some value) <|>
    (do
      symbol "="
      expression fun _ => false
      return none) <|>
    (do
      discard (takes anyGroup)
      return none)
  return ⟨sourceText tokens, text⟩

/-- Takes attributes, `fuel` at most. -/
def attributesUpTo : Nat → Reader (List Attribute)
  | 0 => return []
  | fuel + 1 => do
    if ← takes (symbol "#") then
      let first ← whole attributeBody (← group .bracket)
      return first :: (← attributesUpTo fuel)
    return []

/-- Takes the attributes ahead. -/
def attributes : Reader (List Attribute) := do attributesUpTo (← ahead).length

/-- Takes attributes of what encloses them. -/
def innerAttributesUpTo : Nat → Reader Unit
  | 0 => return
  | fuel + 1 => do
    if ← takes (symbol "#" *> symbol "!") then
      discard (whole attributeBody (← group .bracket))
      innerAttributesUpTo fuel

/-- What may stand in parentheses behind the word for a visible item. -/
def visibilityScope : Reader Unit :=
  (keyword "in" *> plainPath) <|> keyword "crate" <|> keyword "self" <|> keyword "super"

/-- Takes the visibility of an item, if it is given, and tells whether it was. -/
def visibility : Reader Bool := do
  let given ← takes (keyword "pub")
  if given then discard (takes do whole visibilityScope (← group .paren))
  return given

/-! ### Generics -/

/-- Takes tokens up to the angle bracket that closes the one before them; `depth` counts the others
that are open, and `fuel` bounds the number of tokens. -/
def closeAngle : Nat → Nat → Reader Unit
  | 0, _ => failure
  | fuel + 1, depth => do
    if ← takes (symbol "->") then closeAngle fuel depth
    else if ← takes (symbol "<") then closeAngle fuel (depth + 1)
    else if ← takes (symbol ">") then
      match depth with
      | 0 => return
      | depth + 1 => closeAngle fuel depth
    else
      unless ← takes anyGroup do discard (token fun _ => true)
      closeAngle fuel depth

/-- Takes generic parameters, if there are any. -/
def generics : Reader Unit := do
  if ← takes (symbol "<") then closeAngle (← ahead).length 0

/-- Whether a token ends the conditions on generic parameters. -/
def endsConditions (t : Token) : Bool := t == .opening .brace || isPunct ';' t || isPunct '=' t

/-- Takes the conditions on generic parameters, if there are any. -/
def conditions : Reader Unit := do
  if ← takes (keyword "where") then skipUntil endsConditions (← ahead).length

/-! ### Structures and enumerations -/

/-- Takes a field with a name. -/
def namedField : Reader Field := do
  discard attributes
  discard visibility
  let name ← ident
  guard !(← sees (symbol "::"))
  symbol ":"
  return ⟨some name, ← type⟩

/-- Takes a field without a name. -/
def unnamedField : Reader Field := do
  discard attributes
  discard visibility
  return ⟨none, ← type⟩

/-- Takes fields in braces. -/
def namedFields : Reader (List Field) := do commaList namedField (← group .brace)

/-- Takes fields in parentheses. -/
def unnamedFields : Reader (List Field) := do commaList unnamedField (← group .paren)

/-- Takes a variant of an enumeration and gives its name. -/
def variant : Reader Token := do
  discard attributes
  discard visibility
  let name ← ident
  discard (namedFields <|> unnamedFields <|> pure [])
  if ← takes (symbol "=") then expression (isPunct ',')
  return name

/-- Takes a structure. -/
def structureItem : Reader (List Field) := do
  keyword "struct"
  discard ident
  generics
  (do
    let fields ← unnamedFields
    conditions
    symbol ";"
    return fields) <|>
  (do
    conditions
    namedFields <|> (symbol ";" *> pure []))

/-- Takes an enumeration behind its visibility. -/
def enumerationItem : Reader (List Token) := do
  keyword "enum"
  discard ident
  generics
  conditions
  commaList variant (← group .brace)

/-! ### Other items -/

/-- Takes a type behind a colon. -/
def typeAnnotation : Reader Unit := symbol ":" *> discard type

/-- Takes an expression behind an equals sign, up to a semicolon. -/
def initializer : Reader Unit := symbol "=" *> expression (isPunct ';')

/-- What an item is whose declaration is complete or not. -/
def completeIf (complete : Bool) : ItemKind := if complete then .documentable else .other

/-- Takes a constant. -/
def constantItem : Reader ItemKind := do
  keyword "const"
  discard identOrBlank
  let typed ← takes typeAnnotation
  let complete ← takes initializer
  guard (typed || complete)
  symbol ";"
  return completeIf (typed && complete)

/-- Takes a static variable. -/
def staticItem : Reader ItemKind := do
  keyword "static"
  discard (takes (keyword "mut"))
  discard ident
  let typed ← takes typeAnnotation
  let complete ← takes initializer
  symbol ";"
  return completeIf (typed && complete)

/-- Takes the words before the word for a function. -/
def functionModifiers : Reader Unit := do
  discard (takes (keyword "const"))
  discard (takes (keyword "async"))
  discard (takes (keyword "unsafe"))
  if ← takes (keyword "extern") then discard (takes string)

/-- Takes a function; one without a body is incomplete. -/
def functionItem : Reader ItemKind := do
  functionModifiers
  keyword "fn"
  discard ident
  generics
  discard (group .paren)
  if ← takes (symbol "->") then discard type
  conditions
  (symbol ";" *> pure .other) <|> (group .brace *> pure .documentable)

/-- Takes another name for a type. -/
def aliasItem : Reader ItemKind := do
  keyword "type"
  discard ident
  generics
  let bounded ← takes (symbol ":" *> bounds)
  conditions
  let complete ← takes (symbol "=" *> type)
  conditions
  symbol ";"
  return completeIf (complete && !bounded)

/-- Takes a union. -/
def unionItem : Reader ItemKind := do
  keyword "union"
  discard ident
  generics
  conditions
  discard namedFields
  return .documentable

/-- Takes an interface of types. -/
def traitItem : Reader ItemKind := do
  discard (takes (keyword "unsafe"))
  discard (takes (keyword "auto"))
  keyword "trait"
  discard ident
  generics
  (do
    symbol "="
    expression (isPunct ';')
    symbol ";"
    return .other) <|>
  (do
    if ← takes (symbol ":") then discard (takes bounds)
    conditions
    discard (group .brace)
    return .documentable)

/-- Takes an implementation of an interface, or of methods. -/
def implementationItem : Reader ItemKind := do
  discard (takes (keyword "default"))
  discard (takes (keyword "unsafe"))
  keyword "impl"
  generics
  discard (takes (symbol "!"))
  discard type
  if ← takes (keyword "for") then discard type
  conditions
  discard (group .brace)
  return .other

/-- Takes the import of another name. -/
def useItem : Reader ItemKind := do
  keyword "use"
  expression (isPunct ';')
  symbol ";"
  return .other

/-- Takes the declaration of a library. -/
def libraryItem : Reader ItemKind := do
  keyword "extern"
  keyword "crate"
  discard ident <|> keyword "self"
  if ← takes (keyword "as") then discard identOrBlank
  symbol ";"
  return .other

/-- Takes a block of foreign functions. -/
def foreignItem : Reader ItemKind := do
  discard (takes (keyword "unsafe"))
  keyword "extern"
  discard (takes string)
  discard (group .brace)
  return .other

/-- Takes the definition of a macro. -/
def macroDefinition : Reader ItemKind := do
  keyword "macro"
  discard ident
  discard (takes (group .paren))
  discard (group .brace)
  return .other

/-- Takes a use of a macro. -/
def macroUse : Reader ItemKind := do
  plainPath
  symbol "!"
  discard (takes ident)
  let d ← anyGroup
  unless d == .brace do symbol ";"
  return .other

/-- Takes an item that has no visibility of its own. -/
def hiddenItem : Reader ItemKind := foreignItem <|> macroUse

mutual

/-- Takes what an item declares, with its visibility; `fuel` bounds how deep modules nest. -/
def itemKindUpTo : Nat → Reader ItemKind
  | 0 => failure
  | fuel + 1 => do
    let visible ← visibility
    (ItemKind.structureType <$> structureItem) <|> (ItemKind.enumeration <$> enumerationItem) <|>
      functionItem <|> constantItem <|> staticItem <|> aliasItem <|> moduleUpTo fuel <|>
      traitItem <|> unionItem <|> implementationItem <|> useItem <|> libraryItem <|>
      macroDefinition <|> (if visible then failure else hiddenItem)

/-- Takes a module with the items in it. -/
def moduleUpTo : Nat → Reader ItemKind
  | 0 => failure
  | fuel + 1 => do
    discard (takes (keyword "unsafe"))
    keyword "mod"
    discard ident
    if ← takes (symbol ";") then return .documentable
    whole (itemsUpTo fuel) (← group .brace)
    return .documentable

/-- Takes items up to the end of the tokens. -/
def itemsUpTo : Nat → Reader Unit
  | 0 => failure
  | fuel + 1 => do
    innerAttributesUpTo (← ahead).length
    if ← atEnd then return
    discard attributes
    discard (itemKindUpTo fuel)
    itemsUpTo fuel

end

/-- Takes an item. -/
def item : Reader Item := do
  let attributes ← attributes
  return ⟨attributes, ← itemKindUpTo (4 * (← ahead).length + 4)⟩

end Reader

/-- The item that a text writes. -/
def Item.parse? (text : String) : Option Item := Reader.readText Reader.item text

/-- The fields of the structure that a text writes. -/
def structureFields? (text : String) : Option (List Field) := do
  match (← Item.parse? text).kind with
  | .structureType fields => return fields
  | _ => failure

/-- The variants of the enumeration that a text writes. -/
def enumerationVariants? (text : String) : Option (List Token) := do
  match (← Item.parse? text).kind with
  | .enumeration variants => return variants
  | _ => failure

end EcmaLex.Declaration
