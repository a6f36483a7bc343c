/-
The report of a validation run: how the run ended and what it found. A
run that fails before anything can be validated has a failure and its
text instead of findings.

Whether a run went well is asked in several ways - `ok`, `status`,
`exitCode`, the JSON text - and each is computed from the same three
things: the state, the failure and the findings. A report is `ok` only
if its run came to its end, so one that is still being made is not.

Findings stand in the order in which they were made; selecting them by
kind or severity keeps that order. The JSON form has its keys in
ascending order, and `text` sorts those of objects inside the given
values as well, so that equal reports have equal texts.
-/
import SchemaAudit.Data.Json.Writer
import SchemaAudit.Finding

namespace SchemaAudit

/-- How far a run is. -/
inductive RunState where
  | idle
  | fetching
  | parsing
  | validated
  | failed
  deriving DecidableEq, Repr

namespace RunState

/-- The word for a state. -/
def word : RunState → String
  | .idle => "idle"
  | .fetching => "fetching"
  | .parsing => "parsing"
  | .validated => "validated"
  | .failed => "failed"

/-- All states. -/
def all : List RunState :=
  [.idle, .fetching, .parsing, .validated, .failed]

/-- The state of a word. -/
def ofWord? (s : String) : Option RunState :=
  all.find? fun x => x.word == s

end RunState

/-- Why a run fails before anything can be validated. -/
inductive FailureKind where
  | transport
  | protocol
  | catalog
  deriving DecidableEq, Repr

namespace FailureKind

/-- The word for a kind of failure. -/
def word : FailureKind → String
  | .transport => "transport"
  | .protocol => "protocol"
  | .catalog => "catalog"

/-- All kinds of failures. -/
def all : List FailureKind := [.transport, .protocol, .catalog]

/-- The kind of failure of a word. -/
def ofWord? (s : String) : Option FailureKind :=
  all.find? fun x => x.word == s

end FailureKind

/-- The report of a run. The collection, the schema version and the
duration are kept as they were given. -/
structure Report where
  collection : Json
  state : RunState
  schemaVersion : Json
  findings : List Finding
  failure : Option FailureKind
  error : Option String
  duration : Json

namespace Report

/-- The report of a run that has not begun. -/
def new (collection : Json) : Report :=
  ⟨collection, .idle, .null, [], none, none,
    .float (Binary64.zero false)⟩

/-- A report with one more finding. -/
def add (r : Report) (f : Finding) : Report :=
  { r with findings := r.findings ++ [f] }

/-- A report with more findings. -/
def addAll (r : Report) (fs : List Finding) : Report :=
  { r with findings := r.findings ++ fs }

/-- The report of a run that failed. -/
def fail (r : Report) (failure : FailureKind) (error : String) : Report :=
  { r with state := .failed, failure := some failure,
           error := some error }

-- ============================================================= summary

/-- The findings of a kind. -/
def byKind (r : Report) (k : FindingKind) : List Finding :=
  r.findings.filter fun f => f.kind == k

/-- The findings of a severity. -/
def bySeverity (r : Report) (s : Severity) : List Finding :=
  r.findings.filter fun f => f.severity == s

/-- Whether a finding is an error. -/
def hasErrors (r : Report) : Bool :=
  r.findings.any fun f => f.severity == .error

/-- Whether a finding is a warning. -/
def hasWarnings (r : Report) : Bool :=
  r.findings.any fun f => f.severity == .warning

/-- Whether the run came to its end and found no error. -/
def ok (r : Report) : Bool := r.state == .validated && !r.hasErrors

/-- The word for how a run stands. A failure goes before errors, and these
before the state that the run has come to. -/
def status (r : Report) : String :=
  if r.state = .failed then "failed"
  else if r.hasErrors then "invalid"
  else if r.state = .validated then "ok"
  else r.state.word

/-- The exit code for a run: 1 for a catalog that cannot be used, 3 for
any other failure, 2 for errors, and for warnings where these are to count
as errors. -/
def exitCode (r : Report) (failOnWarning : Bool) : Nat :=
  match r.failure with
  | some .catalog => 1
  | some _ => 3
  | none =>
      if r.hasErrors || (failOnWarning && r.hasWarnings) then 2 else 0

-- ================================================================ JSON

/-- A text that may be missing as JSON. -/
def optionalText : Option String → Json
  | some s => .str s
  | none => .null

/-- A finding as JSON. -/
def findingJson (f : Finding) : Json :=
  .obj
    [("kind", .str f.kind.word),
     ("message", .str f.message),
     ("severity", .str f.severity.word),
     ("subject", optionalText f.subject)]

/-- A report as JSON, keys in ascending order. -/
def toJson (r : Report) : Json :=
  .obj
    [("collection", r.collection),
     ("duration_s", r.duration),
     ("error", optionalText r.error),
     ("failure_kind", optionalText (r.failure.map FailureKind.word)),
     ("findings", .arr (r.findings.map findingJson)),
     ("schema_version", r.schemaVersion),
     ("state", .str r.state.word),
     ("status", .str r.status)]

/-- The JSON text of a report. Objects inside what was given are written
with their keys in ascending order too. -/
def text (r : Report) : Except Json.WriteFault String :=
  r.toJson.sortKeys.write

end Report

end SchemaAudit
