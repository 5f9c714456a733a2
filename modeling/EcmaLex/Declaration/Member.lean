import EcmaLex.Declaration.Item

/-!
# Members

A field of a structure is reached from the value by its name or by its index, and a variant of an
enumeration from the type by its name.

## Main definitions

* `EcmaLex.Declaration.Member` : what names a field.
* `EcmaLex.Declaration.Member.access` : how a field is reached.
* `EcmaLex.Declaration.memberOfType?` : the first field whose type has a given name.
-/

namespace EcmaLex.Declaration

/-- What names a field: its name, or its index. -/
inductive Member
  | named (name : Token)
  | index (n : Nat)
  deriving DecidableEq, Repr

/-- How a field is reached from the value. -/
def Member.access : Member → String
  | named name => "self." ++ name.sourceText
  | index n => "self." ++ toString n

/-- How a variant is reached from the type. -/
def variantPath (name : Token) : String := "Self::" ++ name.sourceText

/-- The member of the field at an index. -/
def Field.member (field : Field) (index : Nat) : Member :=
  match field.name with
  | some name => .named name
  | none => .index index

/-- The member that a name writes. -/
def Member.parse? (text : String) : Option Member := .named <$> Reader.readText Reader.ident text

/-- The member of the first field whose type has a segment with a given name. -/
def memberOfType? (fields : List Field) (name : String) : Option Member :=
  fields.zipIdx.findSome? fun (field, index) =>
    (field.type.named? name).map fun _ => field.member index

end EcmaLex.Declaration
