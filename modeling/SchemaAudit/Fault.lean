/-
Why a schema entry is refused. A fault is a cause with the values it is
about; its wording is `Fault.message`, and nothing looks into a wording
again.

Building an entry and reading one refuse with the same faults, so that a
caller need not know which of the two was done. The values are as they
were given, of any kind: what is refused for a name may be a list, and
its wording shows the list.
-/
import SchemaAudit.Data.Json
import SchemaAudit.Property

namespace SchemaAudit

/-- The kinds of named schema entries. -/
inductive EntryKind where
  | static
  | dynamic
  | type
  deriving DecidableEq, Repr

/-- The word for a kind of entry. -/
def EntryKind.word : EntryKind → String
  | .static => "field"
  | .dynamic => "dynamicField"
  | .type => "fieldType"

/-- Why a schema entry is refused. -/
inductive Fault where
  /-- A name breaks the naming rule of its kind. -/
  | invalidName (name : Json) (kind : EntryKind)
  /-- Given properties set the field's own name or type. -/
  | reservedOverride
  /-- A property key is no property. -/
  | foreignKey (key : Json)
  /-- An end of a copy field is missing. -/
  | endpointAbsent
  /-- An end of a copy field is neither a static nor a dynamic field. -/
  | endpointNotField
  /-- A dynamic destination has a static source. -/
  | wildcardDest (dest source : String)
  /-- A destination of one value has a source of several. -/
  | singleValuedDest (dest source : String)
  /-- A limit of characters is no positive integer. -/
  | charLimit (limit : Json)
  /-- A metadata field maps to a type that cannot be built yet. -/
  | unsupportedType (solrType name : String)
  /-- A key names no property. -/
  | unknownProperty (key : Json)
  /-- A type name is not in the catalog of types. -/
  | unknownType (name : Json)
  /-- A value does not fit its property. -/
  | invalidValue (value : Json) (property : Property)
  /-- An end of a copy field, known by its role, names no parsed
  field. -/
  | unresolved (role : String) (name : Json)
  deriving BEq

/-- The wording of a fault. -/
def Fault.message : Fault → String
  | .invalidName name kind =>
      name.literal ++ " does not meet the Solr naming convention for "
        ++ kind.word
  | .reservedOverride =>
      "Given properties may not override the field's name or type"
  | .foreignKey key =>
      "Property key " ++ key.literal ++ " is not a FieldProperty"
  | .endpointAbsent => "Copy field source and dest may not be None"
  | .endpointNotField =>
      "Copy field source and dest may only be static or dynamic fields, "
        ++ "not types"
  | .wildcardDest dest source =>
      "Wildcard dest " ++ Text.quoted dest
        ++ " requires a wildcard source, got " ++ Text.quoted source
  | .singleValuedDest dest source =>
      "Dest " ++ Text.quoted dest
        ++ " must be multivalued to receive from multivalued "
        ++ Text.quoted source
  | .charLimit limit =>
      "Copy field maxChars may not be < 1 or None, got " ++ limit.literal
  | .unsupportedType solrType name =>
      "Solr type " ++ Text.quoted solrType ++ " for " ++ Text.quoted name
        ++ " not supported yet"
  | .unknownProperty key => "Unknown schema property " ++ key.literal
  | .unknownType name =>
      "Field type " ++ name.literal ++ " from Solr is not modeled"
  | .invalidValue value property =>
      "Value " ++ value.literal ++ " for property "
        ++ Text.quoted property.key ++ " is not a valid "
        ++ property.kind.word
  | .unresolved role name =>
      "copyField references unknown " ++ role ++ " field "
        ++ name.literal

end SchemaAudit
