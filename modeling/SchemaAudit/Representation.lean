/-
The schema as the engine represents it: a version, names, and four lists
of raw entries. `ofPayload` reads it from the JSON body of an answer;
the entries themselves are not looked into.

A list that is absent is empty, and any other thing in its place refuses
the body, null included; a version that is null is none, and a name may
be anything. The version is held as the nearest double. Integers are of
any size and doubles are not, so there are versions without one, which
are refused in a way of their own (`PayloadFault.versionTooLarge`): what
a caller makes of this refusal is not what it makes of the others.
-/
import SchemaAudit.Data.Json

namespace SchemaAudit

/-- A raw schema entry: keys and values in the order of the answer. -/
abbrev RawEntry := List (String × Json)

/-- The raw schema of an answer. -/
structure Representation where
  version : Option Binary64
  name : Json
  uniqueKey : Json
  fields : List RawEntry
  dynamicFields : List RawEntry
  copyFields : List RawEntry
  fieldTypes : List RawEntry

/-- Why a body holds no schema. -/
inductive PayloadFault where
  | noSchema
  | versionNotNumber (version : Json)
  /-- The version is an integer beyond the largest double. -/
  | versionTooLarge
  | notEntries (key : String)

/-- The wording of a fault of a body. -/
def PayloadFault.message : PayloadFault → String
  | .noSchema => "Response has no 'schema' object"
  | .versionNotNumber version =>
      "Schema version " ++ version.literal ++ " is not a number"
  | .versionTooLarge => "int too large to convert to float"
  | .notEntries key =>
      "Schema '" ++ key ++ "' must be a list of objects"

namespace Representation

/-- The entries of an object. -/
def entries? : Json → Option RawEntry
  | .obj entries => some entries
  | _ => none

/-- The schema object of a body. -/
def schema? (payload : Json) : Option RawEntry :=
  (payload.field? "schema").bind entries?

/-- The version of a schema. -/
def readVersion (schema : RawEntry) :
    Except PayloadFault (Option Binary64) :=
  match Json.find? "version" schema with
  | none | some .null => .ok none
  | some (.float x) => .ok (some x)
  | some (.int n) =>
      match Binary64.ofInt? n with
      | some x => .ok (some x)
      | none => .error .versionTooLarge
  | some v => .error (.versionNotNumber v)

/-- One list of entries of a schema; an absent list is empty. -/
def readEntries (schema : RawEntry) (key : String) :
    Except PayloadFault (List RawEntry) :=
  match Json.find? key schema with
  | none => .ok []
  | some (.arr items) =>
      match items.mapM entries? with
      | some entries => .ok entries
      | none => .error (.notEntries key)
  | some _ => .error (.notEntries key)

/-- Read the schema in a body. -/
def ofPayload (payload : Json) : Except PayloadFault Representation :=
  match schema? payload with
  | none => .error .noSchema
  | some schema => do
      let version ← readVersion schema
      let fields ← readEntries schema "fields"
      let dynamicFields ← readEntries schema "dynamicFields"
      let copyFields ← readEntries schema "copyFields"
      let fieldTypes ← readEntries schema "fieldTypes"
      .ok
        { version
          name := (Json.find? "name" schema).getD .null
          uniqueKey := (Json.find? "uniqueKey" schema).getD .null
          fields
          dynamicFields
          copyFields
          fieldTypes }

end Representation

end SchemaAudit
