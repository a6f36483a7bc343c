/-
Schemas: static and dynamic fields by their names, and copy fields.
-/
import SchemaAudit.CopyField

namespace SchemaAudit

/-- The fields and copy fields of a schema. -/
structure Schema where
  statics : Table String Field
  dynamics : Table String Field
  copies : List CopyField

namespace Schema

/-- The schema without entries. -/
def empty : Schema := ⟨Table.empty, Table.empty, []⟩

/-- The keys of the copy fields. -/
def copyKeys (s : Schema) : List (String × String) :=
  s.copies.map CopyField.key

end Schema

-- =============================================================== names

/-- Names in ascending order. -/
def sortNames (names : List String) : List String :=
  names.mergeSort fun a b => a ≤ b

/-- The names of one table that another lacks, in ascending order. -/
def onlyIn (here there : Table String Field) : List String :=
  sortNames (here.keys.filter fun name => !there.contains name)

/-- The names that two tables share, in ascending order. -/
def inBoth (here there : Table String Field) : List String :=
  sortNames (here.keys.filter fun name => there.contains name)

end SchemaAudit
