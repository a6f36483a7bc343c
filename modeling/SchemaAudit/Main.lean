/-
The program. It gathers what a run needs from the world, makes the run,
and carries out what its transcript says: the lines of the log go to the
error output, the report to the standard output, the counters to their
file. The answer of the engine is read from the standard input; without
any the connection counts as refused.

This is the only module with effects. All that decides anything is in
the run.
-/
import SchemaAudit.Command.Run
import SchemaAudit.Command.Usage

namespace SchemaAudit.Shell

-- ============================================================ gathering

/-- The names of the variables that settings are read from. -/
def variableNames : List String :=
  ["SOLR_URL", "SOLR_COLLECTION", "HTTP_TIMEOUT", "CONNECT_TIMEOUT",
   "HTTP_RETRIES", "METADATA_CATALOG_PATH", "COPY_FIELD_MAX_CHARS",
   "LOG_LEVEL", "LOG_JSON"]

/-- The variables of the environment that settings are read from. -/
def readEnvironment : IO (List (String × String)) := do
  let found ← variableNames.mapM fun name => do
    pure ((← IO.getEnv name).map fun value => (name, value))
  pure found.reduceOption

/-- What stands at a path. -/
def readContent (path : String) : IO FileContent := do
  try
    pure (.bytes (← IO.FS.readBinFile path).toList)
  catch
    | .noFileOrDirectory .. => pure .missing
    | .inappropriateType .. => pure .directory
    | e => pure (.unreadable (toString e))

/-- The bytes of the settings file; none if there is no such file. -/
def readSettingsFile : IO (List UInt8) := do
  match ← readContent ".env" with
  | .bytes content => pure content
  | _ => pure []

/-- The rest of an input. -/
partial def readRest (input : IO.FS.Stream) (before : ByteArray) :
    IO ByteArray := do
  let part ← input.read 65536
  if part.isEmpty then pure before else readRest input (before ++ part)

/-- What the transport makes of every request. -/
def readAnswer : IO (Http.Outcome Empty) := do
  let body ← readRest (← IO.getStdin) ByteArray.empty
  if body.isEmpty then pure (.broken "connection refused")
  else pure (.answered ⟨200, [], body.toList⟩)

/-- An id of sixteen hexadecimal digits. -/
def freshId : IO String := do
  let n ← IO.rand 0 (Nat.pow 2 64 - 1)
  pure (String.ofList (Text.hex 16 n))

/-- A stamp for the lines of a run. -/
def freshStamp : IO Stamp := do
  let trace := (← freshId) ++ (← freshId)
  pure ⟨toString (← IO.monoMsNow), ⟨trace, ← freshId⟩⟩

/-- What surrounds a run with given arguments. -/
def gather (a : Arguments) : IO (Surroundings Empty) := do
  let environment ← readEnvironment
  let settingsFile ← readSettingsFile
  let answer ← readAnswer
  let world : Surroundings Empty :=
    ⟨environment, settingsFile, fun _ => .missing, fun _ => answer,
     fun _ => none⟩
  let file := ((Text.decodeUtf8 settingsFile).toOption).getD ""
  let settings := Settings.read (a.sources environment file)
  match settings.toOption.bind Settings.catalogPath with
  | some path =>
      let content ← readContent path
      pure { world with
        contentAt := fun p => if p = path then content else .missing }
  | none => pure world

-- ========================================================= carrying out

/-- The wording of what passed through a fetch. -/
def fetchMessage : Http.FetchEscape Empty → String
  | .url fault => fault.message
  | .domain fault => fault.message
  | .header fault => fault.message
  | .untyped url => Http.untypedMessage url
  | .tooDeep container => container.tooDeepMessage
  | .versionTooLarge => PayloadFault.versionTooLarge.message

/-- The wording of what ended a run without an exit code. -/
def escapeMessage : RunEscape Empty → String
  | .settingsFile fault => fault.message
  | .level fault => fault.message
  | .catalog fault => fault.message
  | .tooDeep container => container.tooDeepMessage
  | .check (.source escape) => fetchMessage escape
  | .check (.interrupted cause) => cause.message
  | .report fault => fault.message
  | .store fault => fault.message

/-- Store the counters of a run. -/
def store (stored : Option (String × Metrics)) : IO Unit :=
  match stored with
  | none => pure ()
  | some (path, m) => IO.FS.writeFile path (Usage.textOf m.lines)

/-- Carry out what a transcript says. -/
def carryOut (t : Transcript Empty) : IO UInt32 := do
  let stamp ← freshStamp
  for line in t.warnings ++ t.setup.shown stamp t.lines do
    let time := if t.setup.json then "" else stamp.time ++ " "
    IO.eprintln (time ++ line)
  IO.print t.printed
  store t.stored
  match t.ending with
  | .ok code => pure code.toUInt32
  | .error cause => do
      IO.eprintln (escapeMessage cause)
      pure 1

end SchemaAudit.Shell

open SchemaAudit in
/-- Run the program on a command line. -/
def main (words : List String) : IO UInt32 := do
  match Arguments.read words with
  | .help => do
      IO.print Usage.help
      pure 0
  | .refused fault => do
      IO.eprint (Usage.refusal fault.message)
      pure 2
  | .valueLost => do
      IO.eprintln CommandLine.valueLostMessage
      pure 1
  | .run a => do
      Shell.carryOut ((← Shell.gather a).run a)
