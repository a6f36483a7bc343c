/-
A run of the program: the settings are read, the expected schema is
built if there is a catalog, the live schema is fetched and validated,
and the findings are logged, the report printed and the counters stored.
The exit code tells how the run ended.

What a run does to the world around it is a value (`Transcript`), so
that nothing is hidden: the lines of the log, the text printed, the URLs
requested, and the counters stored. What it finds there is a value as
well (`Surroundings`): the environment, the bytes of the settings file,
what stands at each path, and what the transport makes of each request.

A run may also end without an exit code, when something is raised that
nobody on the way expects (`RunEscape`). A catalog that is missing or
malformed ends a run with a message and a code, while one that the
system will not let be read escapes; a check that loads its own catalog
reports both (`exitsOne_iff`).
-/
import SchemaAudit.Command.Arguments
import SchemaAudit.Command.Folder
import SchemaAudit.Http.Client
import SchemaAudit.Log.Output
import SchemaAudit.Settings
import SchemaAudit.Settings.Dotenv

namespace SchemaAudit

/-- What surrounds a run: the variables of the environment, the bytes of
the settings file, what stands at each path, what the transport makes of
each request, and why nothing can be stored at a path. -/
structure Surroundings (ε : Type) where
  environment : List (String × String)
  settingsFile : List UInt8
  contentAt : String → FileContent
  answer : Nat → Http.Outcome ε
  storeFault? : String → Option StoreFault

/-- What ends a run without an exit code. -/
inductive RunEscape (ε : Type) where
  | settingsFile (fault : Text.Utf8Fault)
  | level (fault : LevelFault)
  | catalog (fault : CatalogFault)
  /-- The catalog is nested too deep. -/
  | tooDeep (container : Json.Container)
  | check (escape : Escape (Http.FetchEscape ε))
  | report (fault : Json.WriteFault)
  | store (fault : StoreFault)

/-- What a run did and how it ended. -/
structure Transcript (ε : Type) where
  /-- The warnings on the settings file, given before the log is set
  up. -/
  warnings : List String
  setup : LogSetup
  lines : List TracedLine
  printed : String
  sent : List Http.Url
  stored : Option (String × Metrics)
  ending : Except (RunEscape ε) Nat

namespace Transcript

variable {ε : Type}

/-- The transcript of a run that has done nothing but read its
settings. -/
def start (warnings : List String) (setup : LogSetup) : Transcript ε :=
  ⟨warnings, setup, [], "", [], none, .ok 0⟩

/-- A transcript with more lines, in a trace that names a collection. -/
def log (t : Transcript ε) (collection : Option String)
    (lines : List LogLine) : Transcript ε :=
  { t with lines := t.lines ++ lines.map fun l => ⟨l, collection⟩ }

/-- A transcript that ends with an exit code. -/
def exit (t : Transcript ε) (code : Nat) : Transcript ε :=
  { t with ending := .ok code }

/-- A transcript that ends without one. -/
def escape (t : Transcript ε) (cause : RunEscape ε) : Transcript ε :=
  { t with ending := .error cause }

end Transcript

/-- A line of the program's own. -/
def note (level : Level) (message : String) : LogLine :=
  ⟨level, .command, message⟩

/-- A transcript that ends with an error message. -/
def Transcript.refuse {ε : Type} (t : Transcript ε) (s : Settings)
    (message : String) : Transcript ε :=
  (t.log (some s.collection) [note .error message]).exit 1

-- ============================================================= settings

namespace Arguments

/-- The settings that the command line gives directly. Empty texts give
nothing. -/
def overrides (a : Arguments) : List (String × Json) :=
  let text (name : String) (v : Option String) : List (String × Json) :=
    ((v.filter (· != "")).map fun s => (name, Json.str s)).toList
  text "solr_url" a.solrUrl
    ++ text "solr_collection" a.collection
    ++ (a.timeout.map fun x => ("http_timeout", Json.float x)).toList
    ++ (a.catalog.map fun s => ("metadata_catalog_path", Json.str s)).toList
    ++ if a.json then [("log_json", .bool true)] else []

/-- The sources of the settings of a run, given the text of the settings
file. -/
def sources (a : Arguments) (environment : List (String × String))
    (file : String) : SettingSources :=
  ⟨a.overrides, environment, Dotenv.read environment file⟩

end Arguments

namespace Surroundings

variable {ε : Type}

/-- The warnings on the text of the settings file. -/
def warnings (file : String) : List String :=
  (Dotenv.misfits (Dotenv.statements file)).map Dotenv.misfitMessage

-- ============================================================== the run

/-- The level at which a finding is logged; live fields that nothing is
expected of are not logged at all. -/
def findingLevel? (f : Finding) : Option Level :=
  match f.severity with
  | .error => some .error
  | .warning => some .warning
  | .info => if f.kind = .liveOnlyField then none else some .info

/-- The lines for the findings of a report. -/
def findingLines (r : Report) : List LogLine :=
  r.findings.filterMap fun f =>
    (findingLevel? f).map fun level => note level f.line

/-- The last line of a run. -/
def closingLine (s : Settings) (r : Report) (code : Nat) : LogLine :=
  if code = 0 then
    note .info ("Schema of " ++ s.collection ++ " matches expectations")
  else if code = 2 then
    note .warning ("Schema of " ++ s.collection ++ " has discrepancies")
  else note .error ("Schema check failed: " ++ r.error.getD "None")

/-- Store the counters where the command line asks for it. -/
def storeMetrics (w : Surroundings ε) (a : Arguments) (s : Settings)
    (m : Metrics) (t : Transcript ε) :
    Except (Transcript ε) (Transcript ε) :=
  match a.metricsFile with
  | none => .ok t
  | some file =>
      let path := Text.normalPath file
      match w.storeFault? path with
      | some fault => .error (t.escape (.store fault))
      | none =>
          .ok ({ t with stored := some (path, m) }.log (some s.collection)
            [note .debug ("Metrics written to " ++ path)])

/-- Finish a run that has a report. -/
def conclude (w : Surroundings ε) (a : Arguments) (s : Settings)
    (m : Metrics) (r : Report) (t : Transcript ε) : Transcript ε :=
  let t := t.log (some s.collection) (findingLines r)
  match r.text with
  | .error fault => t.escape (.report fault)
  | .ok text =>
      match storeMetrics w a s m { t with printed := text ++ "\n" } with
      | .error t => t
      | .ok t =>
          let code := r.exitCode a.failOnWarning
          (t.log (some s.collection) [closingLine s r code]).exit code

/-- The wording of what ends a check and counts as an unusable value, as
a catalog that cannot be used does. -/
def unusable? : Escape (Http.FetchEscape ε) → Option String
  | .source (.domain fault) => some fault.message
  | .source (.header fault) => some fault.message
  | .source (.untyped url) => some (Http.untypedMessage url)
  | _ => none

/-- Fetch and validate the live schema. -/
def audit (w : Surroundings ε) (a : Arguments) (s : Settings)
    (expected : Option (Catalog × Cache)) (t : Transcript ε) :
    Transcript ε :=
  let client := Http.Client.new s.solrUrl s.collection
  let fetched := client.fetch w.answer
  let checker : Checker := ⟨.str s.collection, expected, Metrics.zero⟩
  let checked := checker.check
    ⟨fetched.value.2, fetched.lines⟩
  let t := { t with sent := fetched.value.1.sent }.log (some s.collection)
    checked.lines
  match checked.value.2 with
  | .error cause =>
      match unusable? cause with
      | some message => t.refuse s ("Invalid metadata catalog: " ++ message)
      | none => t.escape (.check cause)
  | .ok report =>
      let metrics :=
        { checked.value.1.metrics with fetches := fetched.value.1.fetches }
      w.conclude a s metrics report t

/-- End a run whose catalog is unusable. What stands in the way of
reading its file ends it without an exit code. -/
def refuseCatalog (s : Settings) (fault : BuildFault)
    (t : Transcript ε) : Transcript ε :=
  match fault with
  | .catalog (.missingFile _) => t.refuse s fault.message
  | .catalog (.isDirectory path) => t.escape (.catalog (.isDirectory path))
  | .catalog (.nameTooLong path) => t.escape (.catalog (.nameTooLong path))
  | .catalog (.unreadable reason) =>
      t.escape (.catalog (.unreadable reason))
  | .catalog (.malformed (.tooDeep container)) =>
      t.escape (.tooDeep container)
  | _ => t.refuse s ("Invalid metadata catalog: " ++ fault.message)

/-- The catalog that the settings name. -/
def catalog? (w : Surroundings ε) (s : Settings) : Option Catalog :=
  s.catalogPath.map fun path => .file path (w.contentAt path)

/-- Build the expected schema if there is a catalog, then go on. -/
def expectAndAudit (w : Surroundings ε) (a : Arguments) (s : Settings)
    (t : Transcript ε) : Transcript ε :=
  match w.catalog? s with
  | none => w.audit a s none t
  | some catalog =>
      let loaded := (Cache.new Cache.usualFullText (.int s.maxChars)).load
        catalog
      let t := t.log (some s.collection) loaded.lines
      match loaded.value with
      | .error fault => refuseCatalog s fault t
      | .ok cache => w.audit a s (some (catalog, cache)) t

/-- The line on tracing, written before the trace names a collection. -/
def tracingLine : LogLine :=
  ⟨.debug, .tracing, "Tracing initialized for service: search-schema"⟩

/-- The set-up of the log for settings that are refused. -/
def plainSetup : LogSetup :=
  (LogSetup.initial.setLevel "root" 20)

/-- A run of the program, given the text of the settings file. -/
def runWith (w : Surroundings ε) (a : Arguments) (file : String) :
    Transcript ε :=
  match Settings.read (a.sources w.environment file) with
  | .error issues =>
      ((Transcript.start (warnings file) plainSetup).log none
        [note .error ("Invalid configuration: "
          ++ issueSummary "Settings" issues)]).exit 1
  | .ok s =>
      match LogSetup.initial.configure s.logLevel s.logJson [] with
      | .error fault =>
          (Transcript.start (warnings file) LogSetup.initial).escape
            (.level fault)
      | .ok setup =>
          w.expectAndAudit a s
            ((Transcript.start (warnings file) setup).log none
              [tracingLine])

/-- A run of the program. -/
def run (w : Surroundings ε) (a : Arguments) : Transcript ε :=
  match Text.decodeUtf8 w.settingsFile with
  | .error fault =>
      (Transcript.start [] LogSetup.initial).escape (.settingsFile fault)
  | .ok file => w.runWith a file

end Surroundings

end SchemaAudit
