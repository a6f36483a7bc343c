/-
Validation runs. A run fetches the live schema, reads it, and reconciles
it with the expected one if there is one.

# How a run ends

With a report, in the usual case: validated, with what was found, or
failed, because the source could not deliver or the catalog could not be
built. Three things end a run without a report: what a source does not
report as a failure of its own (`SourceFault.beyond`), a catalog that is
nested too deep to be read, and a dynamic entry whose name is a list or
an object (`Interruption`).

# What a run changes

A checker keeps its catalog, its cache and its counters. The cache is
loaded on the first validation that needs it and kept, also if that
validation is interrupted later on; the counters move once for every
report, at the end of the run (`finish`). A run that ends without a
report counts as none.

`validateInto` is the run from the fetched schema on, `validate` and
`check` are the two ways to enter it: with a schema that is there
already, and with a source that has to be asked first. `parse` only
reads, and compares with nothing.
-/
import SchemaAudit.Expected
import SchemaAudit.Live
import SchemaAudit.Metrics
import SchemaAudit.Reconcile

namespace SchemaAudit

/-- How a source of schemas fails: it cannot be reached, it answers
something else, or it breaks in a way of its own. -/
inductive SourceFault (ε : Type) where
  | transport (message : String)
  | protocol (message : String)
  | beyond (cause : ε)

/-- What ends a validation without a report: an entry under no usable
name, or a catalog that is nested too deep. -/
inductive Interruption where
  | key (fault : KeyFault)
  | tooDeep (container : Json.Container)

/-- The wording of what ends a validation. -/
def Interruption.message : Interruption → String
  | .key fault => fault.message
  | .tooDeep container => container.tooDeepMessage

/-- What ends a run without a report. -/
inductive Escape (ε : Type) where
  | source (cause : ε)
  | interrupted (cause : Interruption)

/-- A checker: the collection its reports name, the catalog and the cache
of the expected schema if there is one, and the counters. -/
structure Checker where
  collection : Json
  expected : Option (Catalog × Cache)
  metrics : Metrics

namespace Checker

/-- The collection of a checker: the one given, else that of its
source. -/
def label (given source : Json) : Json :=
  if given.isTruthy then given else source

-- ============================================================= reading

/-- The finding for a destination of one value that several copy fields
feed. -/
def fanInFinding (f : FanIn) : Finding :=
  ⟨.copyFieldRule, .warning, f.message, none⟩

/-- The findings on a live schema that was read: the destinations fed by
several copy fields, then those against the expected schema. -/
def findingsOn (live : Schema) (expected : Option Schema) :
    List Finding :=
  (fanIns live.copies).map fanInFinding
    ++ (expected.map fun e => reconcile e live).getD []

/-- The catalog and the cache, the cache loaded. A cache that is loaded
already is not loaded again. -/
def loadedExpected :
    Option (Catalog × Cache) →
      Logged (Except BuildFault (Option (Catalog × Cache)))
  | none => pure (.ok none)
  | some (catalog, cache) =>
      if cache.isLoaded then pure (.ok (some (catalog, cache)))
      else do
        let loaded ← cache.load catalog
        pure (loaded.map fun cache => some (catalog, cache))

/-- The expected schema of a checker. -/
def schema? (expected : Option (Catalog × Cache)) : Option Schema :=
  expected.map fun e => e.2.content

/-- A version as the report shows it. -/
def versionJson : Option Binary64 → Json
  | some x => .float x
  | none => .null

/-- Validate a representation into a report. The report has its state and
the version of the schema before the catalog is asked, so a report on a
catalog that failed has them too. -/
def validateInto (c : Checker) (report : Report)
    (r : Representation) :
    Logged (Checker × Except Interruption Report) := do
  let report :=
    { report with state := .parsing, schemaVersion := versionJson r.version }
  match ← loadedExpected c.expected with
  | .error fault =>
      match fault.tooDeep? with
      | some container => pure (c, .error (.tooDeep container))
      | none => do
          Logged.note .error .checker
            ("Could not build the expected schema: " ++ fault.message)
          pure (c, .ok (report.fail .catalog fault.message))
  | .ok expected => do
      let c := { c with expected }
      match ← readLive r with
      | .error fault => pure (c, .error (.key fault))
      | .ok (live, findings) =>
          let report := report.addAll
            (findings ++ findingsOn live (schema? expected))
          pure (c, .ok { report with state := .validated })

-- ============================================================= the runs

/-- A word to the log on a run that came to its end. -/
def noteFinished (r : Report) : Logged Unit :=
  if r.state = .failed then pure ()
  else Logged.note (if r.hasErrors then .warning else .info) .checker
    ("Schema validation finished: " ++ toString r.findings.length
      ++ " findings (" ++ toString (r.bySeverity .error).length
      ++ " errors) in 0.00s")

/-- Count a run and log its end. -/
def finish (c : Checker) (r : Report) : Logged Checker := do
  noteFinished r
  pure { c with metrics := c.metrics.record r }

/-- Validate a schema that was fetched. -/
def validate (c : Checker) (r : Representation) :
    Logged (Checker × Except Interruption Report) := do
  let (c, result) ← c.validateInto (Report.new c.collection) r
  match result with
  | .error fault => pure (c, .error fault)
  | .ok report => do
      let c ← c.finish report
      pure (c, .ok report)

/-- The report of a run whose source failed. -/
def failedRun {ε : Type} (c : Checker) (failure : FailureKind)
    (words message : String) :
    Logged (Checker × Except (Escape ε) Report) := do
  Logged.note .error .checker (words ++ message)
  let report := (Report.new c.collection).fail failure message
  let c ← c.finish report
  pure (c, .ok report)

/-- Fetch a schema and validate it. -/
def check {ε : Type} (c : Checker)
    (source : Logged (Except (SourceFault ε) Representation)) :
    Logged (Checker × Except (Escape ε) Report) := do
  match ← source with
  | .error (.protocol message) =>
      c.failedRun .protocol "Schema response from Solr unusable: " message
  | .error (.transport message) =>
      c.failedRun .transport "Could not fetch schema from Solr: " message
  | .error (.beyond cause) => pure (c, .error (.source cause))
  | .ok r => do
      let (c, result) ← c.validate r
      pure (c, result.mapError .interrupted)

/-- Read a schema into a report, which stays as it is but for its
findings. -/
def parse (c : Checker) (r : Representation) :
    Logged (Except KeyFault (Schema × Report)) := do
  let result ← readLive r
  pure (result.map fun (live, findings) =>
    (live, (Report.new c.collection).addAll findings))

end Checker

end SchemaAudit
