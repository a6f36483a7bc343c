/-
The schema that is expected of the engine, derived from a metadata
catalog. Every metadata field that is indexed becomes a static field,
and every such field is copied into the full-text field. Dynamic fields
are registered by the application itself.

# From metadata to fields

`Definition.field?` decides about one metadata field. Its declared type
gives the type that its values are indexed with
(`DeclaredType.indexType?`); a metadata field without one is skipped
with a word to the log, one whose type cannot be built is a fault, and
the rest become fields with the flags of a preset. `buildFields` goes
through a catalog in its order and stops at the first fault.

# The cache

A cache holds the expected schema, together with the full-text field and
the limit that every copy field gets. `load` adds what is new in the
catalog, `reload` starts afresh from it, and both leave the cache alone
if the catalog cannot be read or one of its fields cannot be built:
everything is built before anything is added (`Cache.build`), so a fault
leaves no half of a catalog behind. What a name or a key is taken by
stays, whichever way it came in (`addFields`, `addCopies`, `register`).

A copy field is made for every field that was built, also for one whose
name is taken and that is dropped; its source is then a field that the
cache does not hold. What follows from that is told by
`Cache.startsFromStatics_run_iff`.
-/
import SchemaAudit.Catalog
import SchemaAudit.Log.Logged
import SchemaAudit.Schema

namespace SchemaAudit

/-- Why the expected schema cannot be built: its catalog cannot be read,
or one of its entries gives no field or no copy field. -/
inductive BuildFault where
  | catalog (fault : CatalogFault)
  | entry (fault : Fault)

/-- The container that stands too deep in others, if that is the
reason. -/
def BuildFault.tooDeep? : BuildFault → Option Json.Container
  | .catalog (.malformed (.tooDeep container)) => some container
  | _ => none

/-- The wording of the reason. -/
def BuildFault.message : BuildFault → String
  | .catalog fault => fault.message
  | .entry fault => fault.message

-- ==================================================== metadata to field

/-- The type that the values of a metadata field are indexed with; some
are never indexed. -/
def DeclaredType.indexType? : DeclaredType → Option FieldType
  | .email => Option.none
  | .int => some FieldType.integer
  | .float => some FieldType.decimal
  | _ => some FieldType.textEn

/-- Whether fields of a type can be built. -/
def FieldType.isSupported (t : FieldType) : Bool :=
  t.name == FieldType.textEn.name

/-- The flags of the field of a metadata field. -/
def Definition.preset (d : Definition) : Preset :=
  if d.multiple then .storedIndexedMultivalued else .storedIndexed

/-- The field of a metadata field, if it is indexed. The type is looked at
before the name, so an unsupported type is the fault of a metadata field
whose name is refused as well. -/
def Definition.field? (d : Definition) : Except Fault (Option Field) :=
  match d.type.indexType? with
  | none => .ok none
  | some t =>
      if t.isSupported then
        (Field.make .static (.str d.name) t
          (some (Overlay.ofTexts d.preset.settings))).map some
      else .error (.unsupportedType t.name d.name)

/-- The fields of metadata fields, up to the first that cannot be built;
those that are not indexed are skipped with a word to the log. -/
def buildFields : List Definition → Logged (Except Fault (List Field))
  | [] => pure (.ok [])
  | d :: rest =>
      match d.field? with
      | .error fault => pure (.error fault)
      | .ok none => do
          Logged.note .debug .cache
            ("Skipping metadata field " ++ d.name ++ ": not indexed")
          buildFields rest
      | .ok (some f) => do
          let fs ← buildFields rest
          pure (fs.map (f :: ·))

-- =============================================================== cache

/-- A cache of the expected schema. -/
structure Cache where
  fullText : Field
  /-- The limit given to every copy field; a wrong one is refused when
  the first of them is built. -/
  maxChars : Json
  content : Schema
  isLoaded : Bool

namespace Cache

/-- The table that holds the full-text field alone. -/
def seed (fullText : Field) : Table String Field :=
  Table.empty.put fullText.name fullText

/-- A new cache: the full-text field and nothing else. -/
def new (fullText : Field) (maxChars : Json) : Cache :=
  ⟨fullText, maxChars, ⟨seed fullText, Table.empty, []⟩, false⟩

/-- The full-text field where none is given. -/
def usualFullText : Field where
  kind := .static
  name := "_text_"
  type := FieldType.textGeneral
  settings := Table.ofList
    [(.indexed, "true"), (.stored, "false"), (.multiValued, "true")]

/-- The copy of a field into the full-text field. -/
def copyOf (c : Cache) (source : Endpoint) : Except Fault CopyField :=
  CopyField.make source (.field c.fullText) c.maxChars

/-- The fields and copy fields of a catalog: first every field is built,
then every copy of one. Nothing of it depends on what the cache holds but
the full-text field and the limit. -/
def build (c : Cache) (catalog : Catalog) :
    Logged (Except BuildFault (List Field × List CopyField)) :=
  match catalog.definitions with
  | .error fault => pure (.error (.catalog fault))
  | .ok definitions => do
      match ← buildFields definitions with
      | .error fault => pure (.error (.entry fault))
      | .ok fields =>
          match fields.mapM fun f => c.copyOf (.field f) with
          | .error fault => pure (.error (.entry fault))
          | .ok copies => pure (.ok (fields, copies))

/-- Add the fields whose names are new, in order, so that of two fields of
one name the first is kept. -/
def addFields (statics : Table String Field) (fields : List Field) :
    Table String Field :=
  fields.foldl (fun t f => t.insertNew f.name f) statics

/-- Add the copy fields whose keys are new, in order. -/
def addCopies (copies : List CopyField) (new : List CopyField) :
    List CopyField :=
  new.foldl CopyField.insertNew copies

/-- A cache with what a catalog adds to it. What it held stays in its
place, and it counts as loaded from now on. -/
def extended (c : Cache) (fields : List Field)
    (copies : List CopyField) : Cache :=
  { c with
    content :=
      { c.content with
        statics := addFields c.content.statics fields
        copies := addCopies c.content.copies copies }
    isLoaded := true }

/-- A cache with what a catalog holds and its dynamic fields: those are
registered by the application and come from no catalog. -/
def replaced (c : Cache) (fields : List Field)
    (copies : List CopyField) : Cache :=
  { c with
    content :=
      { c.content with
        statics := addFields (seed c.fullText) fields
        copies := addCopies [] copies }
    isLoaded := true }

/-- Add what is new in a catalog. -/
def load (c : Cache) (catalog : Catalog) :
    Logged (Except BuildFault Cache) := do
  match ← c.build catalog with
  | .error fault => pure (.error fault)
  | .ok (fields, copies) =>
      let c := c.extended fields copies
      Logged.note .info .cache
        ("Schema cache loaded: " ++ toString c.content.statics.size
          ++ " static fields, " ++ toString c.content.copies.length
          ++ " copy fields")
      pure (.ok c)

/-- A word to the log on names that were dropped, if there are any. -/
def noteDropped (names : List String) : Logged Unit :=
  if names.isEmpty then pure ()
  else Logged.note .info .cache
    ("Schema cache reload dropped fields: " ++ ", ".intercalate names)

/-- Start afresh from a catalog; fields that left it are dropped. -/
def reload (c : Cache) (catalog : Catalog) :
    Logged (Except BuildFault Cache) := do
  match ← c.build catalog with
  | .error fault => pure (.error fault)
  | .ok (fields, copies) =>
      let fresh := c.replaced fields copies
      noteDropped (onlyIn c.content.statics fresh.content.statics)
      Logged.note .info .cache
        ("Schema cache reloaded: "
          ++ toString fresh.content.statics.size ++ " static fields")
      pure (.ok fresh)

/-- Add a dynamic field of the application unless its name is taken. -/
def register (c : Cache) (f : Field) : Cache :=
  { c with
    content :=
      { c.content with
        dynamics := c.content.dynamics.insertNew f.name f } }

end Cache

end SchemaAudit
