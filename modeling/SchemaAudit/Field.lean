/-
Fields. A static field has a concrete name; a dynamic field is a
template that catches every longer name with its ending. Both refer to a
type and hold settings of their own.

# Properties

A property of a field is resolved in three steps: what the field sets,
else what its type sets, else what the engine assumes (`effective`).
Values are kept as canonical texts, whatever they were written as;
`typed` turns one back into the value that it stands for. Name and type
are kept apart from the settings, and no overlay may set them.

# Two ways to a field

`make` builds a field from a name, a type and an overlay; `ofWire` reads
one from a wire object and `toWire` writes it again. Both check the same
rules, in orders of their own, and the order decides which fault is told
if there are several: `make` refuses an overlay before it looks at the
name, `ofWire` resolves the type first and checks the name last.

A wire object may leave out the flags of the usual preset; `presumed`
fills them in, but for those that the type sets, so that a field that
was read means what the engine takes it to mean.
-/
import SchemaAudit.FieldType

namespace SchemaAudit

/-- The two kinds of fields. -/
inductive FieldKind where
  | static
  | dynamic
  deriving DecidableEq, Repr

/-- A kind of field as a kind of entry. -/
def FieldKind.entry : FieldKind → EntryKind
  | .static => .static
  | .dynamic => .dynamic

/-- Common combinations of storage flags. -/
inductive Preset where
  | stored
  | storedIndexed
  | storedIndexedMultivalued
  deriving DecidableEq, Repr

/-- All presets. -/
def Preset.all : List Preset :=
  [.stored, .storedIndexed, .storedIndexedMultivalued]

/-- The word for a preset. -/
def Preset.word : Preset → String
  | .stored => "STORED"
  | .storedIndexed => "STORED_INDEXED"
  | .storedIndexedMultivalued => "STORED_INDEXED_MULTIVALUED"

/-- The preset of a word. -/
def Preset.ofWord? (s : String) : Option Preset :=
  all.find? fun p => p.word == s

/-- The flags of a preset, in order. -/
def Preset.settings : Preset → List (Property × String)
  | .stored =>
      [(.stored, "true"), (.indexed, "false"), (.multiValued, "false")]
  | .storedIndexed =>
      [(.stored, "true"), (.indexed, "true"), (.multiValued, "false")]
  | .storedIndexedMultivalued =>
      [(.stored, "true"), (.indexed, "true"), (.multiValued, "true")]

/-- A static or dynamic field. -/
structure Field where
  kind : FieldKind
  name : String
  type : FieldType
  /-- What the field sets beside its name and type. -/
  settings : Bag

namespace Field

-- ============================================================ building

/-- A new field of a kind. Without an overlay it is stored and indexed;
an overlay may not set the name or the type. -/
def make (kind : FieldKind) (name : Json) (type : FieldType)
    (overlay : Option Overlay) : Except Fault Field := do
  let given := overlay.getD (Overlay.ofTexts Preset.storedIndexed.settings)
  if given.sets .name || given.sets .type then
    throw .reservedOverride
  let name ← kind.entry.name name
  let settings ← given.fill Table.empty
  .ok ⟨kind, name, type, settings⟩

/-- The flags that a wire object may leave out, less those its type sets:
what a type sets is in effect anyway, and filling it in would hide it. -/
def presumed (type : FieldType) : List (Property × String) :=
  Preset.storedIndexed.settings.filter fun e => (type.get? e.1).isNone

/-- Read a field from a wire object. The type is resolved first, then
every key beside name and type is read, and last the name is checked. -/
def ofWire (kind : FieldKind) (raw : List (String × Json)) :
    Except Fault Field := do
  let type ← FieldType.resolve
    ((Json.find? Property.type.key raw).getD .null)
  let given ← Bag.ofWire (raw.filter fun e =>
    e.1 != Property.name.key && e.1 != Property.type.key)
  let name ← kind.entry.name
    ((Json.find? Property.name.key raw).getD .null)
  .ok ⟨kind, name, type,
    (Table.ofList (presumed type)).putAll given.entries⟩

-- ============================================================= reading

/-- All properties of a field: its name, its type, its settings. -/
def properties (f : Field) : List (Property × String) :=
  (.name, f.name) :: (.type, f.type.name) :: f.settings.entries

/-- The value that a field itself has for a property. -/
def get? (f : Field) (p : Property) : Option String :=
  Table.valueOf p f.properties

/-- The value of a property as JSON; null if the field has none. -/
def typed (f : Field) (p : Property) : Except Text.NumeralFault Json :=
  match f.get? p with
  | some value => p.typed value
  | none => .ok .null

/-- The wire object of a field, in the order of its properties. -/
def toWire (f : Field) :
    Except Text.NumeralFault (List (String × Json)) :=
  f.properties.mapM fun (p, value) =>
    (p.typed value).map fun v => (p.key, v)

/-- The value a property takes for a field: its own, else that of its
type, else what the engine assumes. -/
def effective (f : Field) (p : Property) : Option String :=
  (f.get? p).or ((f.type.get? p).or p.assumed?)

/-- Whether records may hold several values of the field. -/
def isMultivalued (f : Field) : Bool :=
  f.effective .multiValued == some "true"

/-- Whether the field is a template. -/
def isWildcard (f : Field) : Bool := f.kind == .dynamic

/-- The ending that a template catches. -/
def ending (f : Field) : List Char := f.name.toList.drop 1

/-- Whether a name is longer than the ending of a template and has it. -/
def catches (f : Field) (name : String) : Bool :=
  f.ending.length < name.length && f.ending.isSuffixOf name.toList

end Field

end SchemaAudit
