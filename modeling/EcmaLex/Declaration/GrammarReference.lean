import EcmaLex.Declaration.Reader

/-!
# References to the grammar

A declaration may say which production of the grammar it describes, by the name of the production
and the place where it is explained. The reference is shown in the documentation of what is
declared.

## Main definitions

* `EcmaLex.Declaration.GrammarReference` : references.
* `EcmaLex.Declaration.GrammarReference.parse` : the reference that a text writes.
* `EcmaLex.Declaration.GrammarReference.documentation` : the lines of its documentation.
-/

namespace EcmaLex.Declaration

/-- A production of the grammar, and where it is explained. -/
structure GrammarReference where
  name : String
  url : String
  deriving DecidableEq, Repr

/-- Reasons for which a text writes no reference: it cannot be cut into tokens; where a string is
expected, something else stands or the text ends; a string is empty; no comma stands between the
strings; or something follows the second string. -/
inductive ReferenceError
  | noTokens
  | noString
  | missingString
  | emptyString
  | noComma
  | trailing
  deriving DecidableEq, Repr

/-- The report of a reason. -/
def ReferenceError.message : ReferenceError → String
  | noTokens => "cannot parse string into token stream"
  | noString => "expected string literal"
  | missingString => "unexpected end of input, expected string literal"
  | emptyString => "This should not be empty."
  | noComma => "expected `,`"
  | trailing => "unexpected token"

namespace GrammarReference

/-- Takes a string that is not empty. -/
def takeString : List Token → Except ReferenceError (String × List Token)
  | .string _ value :: rest => if value.isEmpty then .error .emptyString else .ok (value, rest)
  | [] => .error .missingString
  | _ :: _ => .error .noString

/-- Takes a comma. -/
def takeComma : List Token → Except ReferenceError (List Token)
  | .punct ',' _ :: rest => .ok rest
  | _ => .error .noComma

/-- The reference that tokens write: two strings with a comma between them. -/
def ofTokens (tokens : List Token) : Except ReferenceError GrammarReference := do
  let (name, rest) ← takeString tokens
  let rest ← takeComma rest
  let (url, rest) ← takeString rest
  if rest.isEmpty then return ⟨name, url⟩
  throw .trailing

/-- The reference that a text writes. -/
def parse (text : String) : Except ReferenceError GrammarReference :=
  match tokens? text with
  | some tokens => ofTokens tokens
  | none => .error .noTokens

/-- The lines that show a reference in a documentation. -/
def documentation (r : GrammarReference) : List String :=
  [" ## " ++ r.name, "", " See the ECMAScript grammar for [" ++ r.name ++ "](" ++ r.url ++ ").", "",
    " ***", ""]

end GrammarReference

end EcmaLex.Declaration
