/-
The settings of the program. Each is looked up, under its name in any
case, among the values given directly, then among the variables of the
environment and last among those of a file. All of them are checked
before any is used, and whatever is wrong is told together.

A source that has a setting hides the sources behind it, also where its
value is refused. Values given directly may be of any kind, those of the
environment and of a file are texts, and the readers take both: a number
may be a numeral, a flag a word.

The URL of the engine is checked before the slashes at its end are
dropped (`checkUrl`), and what this order comes to is
`Settings.readUrl_kept_iff`.
-/
import SchemaAudit.Data.Table
import SchemaAudit.Text.Path
import SchemaAudit.Validation.Checked
import SchemaAudit.Validation.Scalar

namespace SchemaAudit

/-- The settings of the program. -/
structure Settings where
  solrUrl : String
  collection : String
  httpTimeout : Binary64
  connectTimeout : Binary64
  retries : Int
  catalogPath : Option String
  maxChars : Int
  logLevel : String
  logJson : Bool

/-- Where settings come from. -/
structure SettingSources where
  given : List (String × Json)
  environment : List (String × String)
  file : List (String × Option String)

namespace SettingSources

/-- The value of the last of the variables with a name in any case. A
variable of a file that is written several times keeps its first
place. -/
def lastNamed? {α : Type} (name : String) (vars : List (String × α)) :
    Option α :=
  ((Table.ofList vars).entries.findRev? fun e =>
    Text.lower e.1 == name).map Prod.snd

/-- The first of the values given directly under a name in any case. -/
def firstNamed? (name : String) (given : List (String × Json)) :
    Option Json :=
  (given.find? fun e => Text.lower e.1 == name).map Prod.snd

/-- The value of a setting in the first source that has it. -/
def value? (s : SettingSources) (name : String) : Option Json :=
  (firstNamed? name s.given).or
    (((lastNamed? name s.environment).or
      (lastNamed? name s.file).join).map .str)

/-- Read a setting, or take its usual value. -/
def read {α : Type} (s : SettingSources) (name : String) (usual : α)
    (read : Json → Except IssueKind α) : Checked α :=
  match s.value? name with
  | some value => Checked.under name (read value)
  | none => .ok usual

end SettingSources

namespace Settings

-- ============================================================== checking

/-- Whether a text starts as a URL of the web. -/
def isWebUrl (s : String) : Bool :=
  "http://".toList.isPrefixOf s.toList
    || "https://".toList.isPrefixOf s.toList

/-- Check the URL of the engine; it is kept without slashes at its
end. -/
def checkUrl (s : String) : Except IssueKind String :=
  if isWebUrl s then .ok (Text.withoutSlashes s)
  else .error (.refused "SOLR_URL must start with http:// or https://")

/-- Read the URL of the engine. -/
def readUrl (value : Json) : Except IssueKind String := do
  checkUrl (← Validation.readText 0 value)

/-- Read a time in seconds, more than none. -/
def readTimeout (value : Json) : Except IssueKind Binary64 := do
  let x ← Validation.readDouble value
  if x.isPositive then .ok x else .error (.notGreater 0)

/-- Read an integer with a least value. -/
def readAtLeast (least : Nat) (value : Json) : Except IssueKind Int := do
  let n ← Validation.readInt value
  if n < least then .error (.notAtLeast least) else .ok n

/-- Read an integer between bounds. -/
def readBetween (least most : Nat) (value : Json) :
    Except IssueKind Int := do
  let n ← Validation.readInt value
  if most < n then .error (.notAtMost most)
  else if n < least then .error (.notAtLeast least)
  else .ok n

/-- Read a path, which may be null. -/
def readPath : Json → Except IssueKind (Option String)
  | .null => .ok none
  | .str s => .ok (some (Text.normalPath s))
  | _ => .error .pathExpected

/-- Read the settings from their sources. -/
def read (s : SettingSources) : Checked Settings :=
  let solrUrl := s.read "solr_url" "http://localhost:8983/solr" readUrl
  let collection := s.read "solr_collection" "collection1"
    (Validation.readText 1)
  let httpTimeout := s.read "http_timeout"
    (Binary64.ofRatio false 30 1) readTimeout
  let connectTimeout := s.read "connect_timeout"
    (Binary64.ofRatio false 10 1) readTimeout
  let retries := s.read "http_retries" 1 (readBetween 0 3)
  let catalogPath := s.read "metadata_catalog_path" none readPath
  let maxChars := s.read "copy_field_max_chars" 3000 (readAtLeast 1)
  let logLevel := s.read "log_level" "info" (Validation.readText 0)
  let logJson := s.read "log_json" false Validation.readFlag
  Checked.start Settings.mk |> Checked.and solrUrl
    |> Checked.and collection
    |> Checked.and httpTimeout |> Checked.and connectTimeout
    |> Checked.and retries |> Checked.and catalogPath
    |> Checked.and maxChars |> Checked.and logLevel
    |> Checked.and logJson

/-- The URL of the schema of the collection. -/
def schemaUrl (s : Settings) : String :=
  s.solrUrl ++ "/" ++ s.collection ++ "/schema"

end Settings

end SchemaAudit
