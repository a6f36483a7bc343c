/-
Naming rules. A static field or a field type has an identifier of two or
more ASCII letters, digits and underscores that does not start with a
digit; a dynamic field has a star, an underscore, and then one or more
of these characters. A name must fit from its first to its last
character.

The two rules exclude each other, so that a name tells its kind. No name
holds a blank, and hence none is the label of a copy field, which is two
names with an arrow between them. Whoever is given a name asks
`EntryKind.name`, which refuses other values than strings as it refuses
strings that do not fit.
-/
import SchemaAudit.Fault

namespace SchemaAudit

/-- The characters inside a name. -/
def isNameChar (c : Char) : Bool :=
  c.isAlphanum || c == '_'

/-- Whether characters form an identifier. -/
def isIdentifier : List Char → Bool
  | c :: d :: rest =>
      (c.isAlpha || c == '_') && isNameChar d && rest.all isNameChar
  | _ => false

/-- Whether characters form the name of a dynamic field. -/
def isWildcard : List Char → Bool
  | '*' :: '_' :: c :: rest => isNameChar c && rest.all isNameChar
  | _ => false

/-- Whether a name fits the rule of a kind of entry. -/
def EntryKind.admits (kind : EntryKind) (name : String) : Bool :=
  match kind with
  | .dynamic => isWildcard name.toList
  | .static | .type => isIdentifier name.toList

/-- A value as a name of a kind of entry: only a string can be one. -/
def EntryKind.name (kind : EntryKind) (name : Json) :
    Except Fault String :=
  match name with
  | .str s =>
      if kind.admits s then .ok s else .error (.invalidName name kind)
  | _ => .error (.invalidName name kind)

end SchemaAudit
