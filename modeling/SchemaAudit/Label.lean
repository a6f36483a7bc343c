/-
The line that stands for a part of a schema in a listing: its kind and the
names that tell it apart from others of the kind.
-/
import SchemaAudit.CopyField
import SchemaAudit.Text.Quoted

namespace SchemaAudit

/-- The constant a property is listed as: its key in capitals. -/
def Property.member (p : Property) : String := p.key.map Char.toUpper

/-- The label of a property. -/
def Property.label (p : Property) : String :=
  "<FieldProperty." ++ p.member ++ ": " ++ Text.quoted p.key ++ ">"

/-- The label of a field type. -/
def FieldType.label (t : FieldType) : String :=
  "FieldType(" ++ Text.quoted t.name ++ ")"

/-- The word that opens the label of a field. -/
def FieldKind.labelWord : FieldKind → String
  | .static => "StaticField"
  | .dynamic => "DynamicField"

/-- The label of a field. -/
def Field.label (f : Field) : String :=
  f.kind.labelWord ++ "(" ++ Text.quoted f.name ++ ")"

/-- The label of a copy field. -/
def CopyField.label (c : CopyField) : String :=
  "CopyField(" ++ Text.quoted c.source.name ++ " -> "
    ++ Text.quoted c.dest.name ++ ", max_chars=" ++ toString c.maxChars
    ++ ")"

end SchemaAudit
