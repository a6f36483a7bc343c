/-
Metadata fields that users define: a name, the type declared for the
values, and whether a record may carry several of them. `read` checks a
JSON value for a definition and tells everything that is wrong with it;
`sortByName` puts definitions into name order, equal names as they
stood.

The type and the number of values go by a key of their own in catalogs,
and may also be given under their full names; where both are there, the
key of catalogs counts. Names are any texts that are not empty: whether
one fits the rule of static fields shows when its field is built, and so
does a declared type for which there is no field type yet.
-/
import SchemaAudit.Validation.Checked
import SchemaAudit.Validation.Scalar

namespace SchemaAudit

/-- The types that may be declared for the values of a metadata field. -/
inductive DeclaredType where
  | none
  | date
  | email
  | text
  | textbox
  | url
  | int
  | float
  deriving DecidableEq, Repr

namespace DeclaredType

/-- The word for a declared type. -/
def word : DeclaredType → String
  | .none => "none"
  | .date => "date"
  | .email => "email"
  | .text => "text"
  | .textbox => "textbox"
  | .url => "url"
  | .int => "int"
  | .float => "float"

/-- All declared types. -/
def all : List DeclaredType :=
  [.none, .date, .email, .text, .textbox, .url, .int, .float]

/-- Read the word for a declared type. -/
def read (value : Json) : Except IssueKind DeclaredType :=
  match value.str?.bind fun s => all.find? fun t => t.word == s with
  | some t => .ok t
  | .none => .error (.noChoice (all.map word))

end DeclaredType

/-- A metadata field. -/
structure Definition where
  name : String
  type : DeclaredType
  multiple : Bool
  deriving DecidableEq

namespace Definition

/-- The entry of the first of two keys that is there. -/
def entryAt? (key other : String) (entries : List (String × Json)) :
    Option (String × Json) :=
  ((Json.find? key entries).map fun v => (key, v)).or
    ((Json.find? other entries).map fun v => (other, v))

/-- Read the entry that is there, or take what stands for its absence;
an issue is put under the key. -/
def readEntry {α : Type} (entry : Option (String × Json))
    (absent : Checked α) (read : Json → Except IssueKind α) : Checked α :=
  match entry with
  | some (key, value) => Checked.under key (read value)
  | none => absent

/-- Read a definition from the entries of an object. The type and the
number of values go by a key of their own in catalogs and may also be
given under their full names. -/
def readEntries (entries : List (String × Json)) : Checked Definition :=
  let name := readEntry (entryAt? "name" "name" entries)
    (.error [⟨.missing, ["name"]⟩]) (Validation.readText 1)
  let type := readEntry (entryAt? "type" "declared_type" entries)
    (.error [⟨.missing, ["type"]⟩]) DeclaredType.read
  let multiple := readEntry
    (entryAt? "allow_multiples" "allows_multiple_values" entries)
    (.ok false) Validation.readFlag
  Checked.start Definition.mk |> Checked.and name |> Checked.and type
    |> Checked.and multiple

/-- Read a definition. -/
def read : Json → Checked Definition
  | .obj entries => readEntries entries
  | _ => .error [⟨.recordExpected "MetadataFieldDefinition", []⟩]

/-- Read definitions from a position on: the issues of all of them, or
the definitions. -/
def readItems (position : Nat) : List Json → Checked (List Definition)
  | [] => .ok []
  | v :: rest =>
      let first := (read v).mapError fun issues =>
        issues.map (Issue.under (toString position))
      Checked.start List.cons |> Checked.and first
        |> Checked.and (readItems (position + 1) rest)

/-- Read a list of definitions. -/
def readList : Json → Checked (List Definition)
  | .arr items => readItems 0 items
  | _ => .error [⟨.listExpected, []⟩]

/-- Definitions in ascending order of their names; those of one name
keep their order. -/
def sortByName (ds : List Definition) : List Definition :=
  ds.mergeSort fun a b => a.name ≤ b.name

end Definition

end SchemaAudit
