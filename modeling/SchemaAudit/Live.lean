/-
The live schema, read entry by entry from its representation. An entry
that does not fit is left out and recorded as a finding; the others are
still read. The templates that every engine brings along are passed
over.

# One entry

`fieldOutcome` and `copyOutcome` say what becomes of one entry, given
what was read before it: a field or copy field, or findings. A field
entry is refused for what `Field.ofWire` refuses it for, or because its
name is taken. A copy field entry is looked at in three steps: its keys,
both of its ends, and only then its limit and the rules on copy fields,
so an entry with an unknown key gives that one finding and nothing else,
and one with two unresolved ends gives two.

# A section

A section is read by going through its entries once, the findings in the
order of the entries (`readFieldsOnto`, `readCopiesOnto`). Static fields
are read first, then dynamic ones, then the copy fields, which refer to
both; `readLive` puts the three together.

A copy field whose pair of names is taken replaces nothing and gives no
finding. A dynamic entry whose name is a list or an object is the one
thing that ends the reading, since it cannot be looked up among the
stock templates (`isStock`).
-/
import SchemaAudit.Data.Key
import SchemaAudit.Finding
import SchemaAudit.Log.Logged
import SchemaAudit.Reference
import SchemaAudit.Representation
import SchemaAudit.Schema

namespace SchemaAudit

-- ===================================================== stock templates

/-- The templates that come with the engine and are not managed. -/
def stockTemplates : List String :=
  ["*_i", "*_is", "*_s", "*_ss", "*_l", "*_ls", "*_t", "*_txt",
   "*_txt_en", "*_b", "*_bs", "*_f", "*_fs", "*_d", "*_ds", "*_dt",
   "*_dts", "*_p", "*_pi", "*_c", "*_ti", "*_tl", "*_tf", "*_td",
   "*_tdt", "*_coordinate", "*_point", "*_srpt", "*_ws", "*_str",
   "*_descendent_path", "*_ancestor_path", "attr_*", "ignored_*",
   "random_*"]

/-- Whether a value names a stock template. A list or an object cannot be
looked up at all, whatever it holds. -/
def isStock (value : Json) : Except KeyFault Bool := do
  value.checkKey
  .ok ((value.str?.map stockTemplates.contains).getD false)

-- ============================================================== fields

/-- The value of a property in a raw entry; null if it has none. -/
def rawValue (p : Property) (raw : RawEntry) : Json :=
  (Json.find? p.key raw).getD .null

/-- The kind of finding for an entry that is refused. -/
def Fault.findingKind : Fault → FindingKind
  | .unknownType _ => .unknownFieldType
  | .unknownProperty _ => .unknownProperty
  | _ => .invalidField

/-- The finding for a field entry that is refused. -/
def refusedField (kind : FieldKind) (subject : String) (fault : Fault) :
    Finding :=
  ⟨fault.findingKind, .error,
    kind.entry.word ++ " " ++ subject ++ ": " ++ fault.message,
    some subject⟩

/-- The finding for a field entry whose name is taken. -/
def repeatedField (kind : FieldKind) (subject : String) : Finding :=
  ⟨.invalidField, .warning,
    kind.entry.word ++ " " ++ subject ++ " is defined twice",
    some subject⟩

/-- What becomes of a field entry behind fields that were read: a field
with a name of its own, or a finding. -/
def fieldOutcome (kind : FieldKind) (parsed : Table String Field)
    (raw : RawEntry) : Except Finding Field :=
  let subject := (rawValue .name raw).shown
  match Field.ofWire kind raw with
  | .error fault => .error (refusedField kind subject fault)
  | .ok f =>
      if parsed.contains f.name then .error (repeatedField kind subject)
      else .ok f

/-- Read field entries behind fields that were read. -/
def readFieldsOnto (kind : FieldKind) (parsed : Table String Field) :
    List RawEntry → Table String Field × List Finding
  | [] => (parsed, [])
  | raw :: rest =>
      match fieldOutcome kind parsed raw with
      | .ok f => readFieldsOnto kind (parsed.insertNew f.name f) rest
      | .error finding =>
          let (fields, findings) := readFieldsOnto kind parsed rest
          (fields, finding :: findings)

/-- Read the field entries of a section. -/
def readFields (kind : FieldKind) (entries : List RawEntry) :
    Logged (Table String Field × List Finding) := do
  let result := readFieldsOnto kind Table.empty entries
  Logged.note .debug .checker
    ("Parsed " ++ toString result.1.size ++ " of " ++ kind.entry.word
      ++ " entries")
  pure result

/-- The entries that are not for stock templates. -/
def managedEntries : List RawEntry → Except KeyFault (List RawEntry)
  | [] => .ok []
  | raw :: rest => do
      let stock ← isStock (rawValue .name raw)
      let managed ← managedEntries rest
      .ok (if stock then managed else raw :: managed)

-- ========================================================= copy fields

/-- The first key of a raw entry that names no property. -/
def unknownKey? (raw : RawEntry) : Option String :=
  (raw.map Prod.fst).find? fun key => (Property.ofKey? key).isNone

/-- The finding for a copy field entry with a fault. -/
def refusedCopy (kind : FindingKind) (subject : String) (fault : Fault) :
    Finding :=
  ⟨kind, .error, "copyField " ++ subject ++ ": " ++ fault.message,
    some subject⟩

/-- The finding for an end of a copy field that means no field. -/
def unresolvedEnd (subject : String) (fault : Fault) : Finding :=
  ⟨.unresolvedCopyField, .error, fault.message, some subject⟩

/-- The findings of a resolution. -/
def unresolvedEnds (subject : String) : Except Fault Field → List Finding
  | .ok _ => []
  | .error fault => [unresolvedEnd subject fault]

/-- A copy field of two fields and a raw entry that holds its limit. -/
def copyOfEntry (source dest : Field) (raw : RawEntry) :
    Except Fault CopyField := do
  let limit ← CopyField.wireLimit raw
  CopyField.ofFields source dest (.int limit)

/-- The subject of findings on a copy field entry. -/
def copySubject (raw : RawEntry) : String :=
  (rawValue .source raw).shown ++ " -> " ++ (rawValue .dest raw).shown

/-- What becomes of a copy field entry, given the fields: a copy field,
or findings. -/
def copyOutcome (statics dynamics : Table String Field)
    (raw : RawEntry) : Except (List Finding) CopyField :=
  let subject := copySubject raw
  match unknownKey? raw with
  | some key =>
      .error [refusedCopy .unknownProperty subject
        (.unknownProperty (.str key))]
  | none =>
      let source := resolveReference "source" (rawValue .source raw)
        statics dynamics
      let dest := resolveReference "dest" (rawValue .dest raw)
        statics dynamics
      match source, dest with
      | .ok s, .ok d =>
          (copyOfEntry s d raw).mapError fun fault =>
            [refusedCopy .invalidCopyField subject fault]
      | _, _ =>
          .error (unresolvedEnds subject source
            ++ unresolvedEnds subject dest)

/-- Read copy field entries behind copy fields that were read; one whose
key is taken changes nothing. -/
def readCopiesOnto (statics dynamics : Table String Field)
    (parsed : List CopyField) :
    List RawEntry → List CopyField × List Finding
  | [] => (parsed, [])
  | raw :: rest =>
      match copyOutcome statics dynamics raw with
      | .ok c =>
          readCopiesOnto statics dynamics (CopyField.insertNew parsed c)
            rest
      | .error here =>
          let (copies, findings) :=
            readCopiesOnto statics dynamics parsed rest
          (copies, here ++ findings)

/-- Log the ends of copy fields that mean no field. -/
def noteUnresolved : List Finding → Logged Unit
  | [] => pure ()
  | f :: rest => do
      if f.kind = .unresolvedCopyField then
        Logged.note .warning .checker f.message
      noteUnresolved rest

/-- Read the copy field entries of a schema. -/
def readCopies (statics dynamics : Table String Field)
    (entries : List RawEntry) : Logged (List CopyField × List Finding) := do
  let result := readCopiesOnto statics dynamics [] entries
  noteUnresolved result.2
  pure result

-- ============================================================== schema

/-- Read a schema from its representation, with the findings on entries
that do not fit. A dynamic entry whose name is a list or an object ends
the reading. -/
def readLive (r : Representation) :
    Logged (Except KeyFault (Schema × List Finding)) := do
  let (statics, onStatics) ← readFields .static r.fields
  match managedEntries r.dynamicFields with
  | .error fault => pure (.error fault)
  | .ok entries => do
      let (dynamics, onDynamics) ← readFields .dynamic entries
      let (copies, onCopies) ← readCopies statics dynamics r.copyFields
      pure (.ok (⟨statics, dynamics, copies⟩,
        onStatics ++ onDynamics ++ onCopies))

end SchemaAudit
