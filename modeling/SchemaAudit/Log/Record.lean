/-
The JSON text of log records: one object on one line with the time, the
level, the message, the logger and the trace, then what belongs to the
record alone. Long texts are cut. What is attached under a key that names
a secret is never shown.

What is attached under the key of a part of the record takes the place of
that part, of whatever kind it is; a part that cannot be shown then is a
`RecordFault`.
-/
import SchemaAudit.Log.Template
import SchemaAudit.Text.Letter
import SchemaAudit.Trace.Context

namespace SchemaAudit

/-- The word for a level. -/
def levelName (n : Int) : String :=
  if n = 50 then "CRITICAL"
  else if n = 40 then "ERROR"
  else if n = 30 then "WARNING"
  else if n = 20 then "INFO"
  else if n = 10 then "DEBUG"
  else if n = 0 then "NOTSET"
  else "Level " ++ toString n

/-- What a record knows of a fault: nothing, the fault itself, or a value
that was attached in its place. -/
inductive FaultNote where
  | absent
  | raised (fault : Raised)
  | value (v : LogValue)

/-- A log record. Its message is a template, filled with what stands for
the arguments. -/
structure Record where
  time : String
  level : LogValue
  logger : LogValue
  message : LogValue
  args : LogValue
  fault : FaultNote
  extras : List (String × LogValue)

/-- Why a record has no text. -/
inductive RecordFault where
  | template (fault : TemplateFault)
  /-- The name of the logger is of a kind without parts. -/
  | notIterable (kind : String)
  | bytesExpected
  /-- What stands for the fault is of a kind without positions. -/
  | notIndexed (kind : String)
  | outOfRange (kind : String)
  | absentPosition (n : Nat)
  | absentAttribute (kind name : String)
  | write (fault : Json.WriteFault)
  deriving DecidableEq

/-- The wording of a fault. -/
def RecordFault.message : RecordFault → String
  | .template fault => fault.message
  | .notIterable kind => "argument of type '" ++ kind ++ "' is not iterable"
  | .bytesExpected => "a bytes-like object is required, not 'str'"
  | .notIndexed kind => "'" ++ kind ++ "' object is not subscriptable"
  | .outOfRange kind => kind ++ "index out of range"
  | .absentPosition n => toString n
  | .absentAttribute kind name =>
      "'" ++ kind ++ "' object has no attribute '" ++ name ++ "'"
  | .write fault => fault.message

namespace Record

/-- The most characters of a message that are shown. -/
def maxMessage : Nat := 2000

/-- The most characters of an attached text that are shown. -/
def maxText : Nat := 500

/-- A text, cut behind a number of characters. -/
def cut (most : Nat) (s : String) : String :=
  if most < s.length then String.ofList (s.toList.take most) ++ "..."
  else s

-- ============================================================== logger

/-- The part of a name behind the last point, if it has one. -/
def lastPart? (name : String) : Option String :=
  if name.contains '.' then
    some (String.ofList
      (name.toList.reverse.takeWhile (· != '.')).reverse)
  else none

/-- Whether a value is a text that is a point and nothing else. -/
def isPoint : LogValue → Bool
  | .plain (.str s) => s == "."
  | _ => false

/-- The component that a logger's name names, if it names one. A
collection names none unless a point is in it, and then it has no
parts. -/
def component? (logger : LogValue) : Except RecordFault (Option String) :=
  let among (vs : List LogValue) : Except RecordFault (Option String) :=
    if vs.any isPoint then
      .error (.absentAttribute logger.kindWord "split")
    else .ok none
  match logger with
  | .plain (.str name) => .ok (lastPart? name)
  | .plain (.arr items) => among (items.map .plain)
  | .plain (.obj entries) => among (entries.map fun e => .plain (.str e.1))
  | .list items | .tuple items | .set _ items => among items
  | .object entries => among (entries.map fun e => .plain (.str e.1))
  | .bytes _ => .error .bytesExpected
  | v => .error (.notIterable v.kindWord)

-- =============================================================== faults

/-- What stands at the positions of a value; none if it has no
positions. -/
def positions? : LogValue → Option (List LogValue)
  | .plain (.str s) =>
      some (s.toList.map fun c => .plain (.str c.toString))
  | .plain (.arr items) => some (items.map .plain)
  | .list items | .tuple items => some items
  | .bytes bs => some (bs.map fun b => .plain (.int b.toNat))
  | _ => none

/-- How the kind of a value begins the refusal of a position. -/
def rangeWord : LogValue → String
  | .bytes _ => ""
  | .plain (.str _) => "string "
  | v => v.kindWord ++ " "

/-- Whether a value is null. -/
def isNull : LogValue → Bool
  | .plain .null => true
  | _ => false

/-- The line for a value that stands for a fault: a kind, the fault, and
the trace of it, which must be null. -/
def faultValueLine (v : LogValue) : Except RecordFault String :=
  match positions? v with
  | none =>
      match Template.entriesOf? v with
      | some _ => .error (.absentPosition 2)
      | none => .error (.notIndexed v.kindWord)
  | some (_ :: fault :: trace :: _) =>
      if !isNull trace then
        .error (.absentAttribute trace.kindWord "tb_frame")
      else
        match fault with
        | .plain .null => .ok "NoneType: None"
        | .raised r => .ok r.line
        | other =>
            .error (.absentAttribute other.kindWord "__suppress_context__")
  | some _ => .error (.outOfRange (rangeWord v))

/-- The line for what a record knows of a fault, if there is one. -/
def faultLine? : FaultNote → Except RecordFault (Option String)
  | .absent => .ok none
  | .raised r => .ok (some r.line)
  | .value v =>
      if v.isTruthy then (faultValueLine v).map some else .ok none

-- ============================================================== extras

/-- Keys that name a secret, in lower case. -/
def secretKeys : List String :=
  ["password", "token", "api_key", "secret", "authorization"]

/-- Whether a key names a secret, in any case. -/
def isSecret (key : String) : Bool := secretKeys.contains (Text.lower key)

/-- Keys of what a record itself is made of. -/
def ownKeys : List String :=
  ["name", "msg", "args", "levelname", "levelno", "pathname", "filename",
   "module", "exc_info", "exc_text", "stack_info", "lineno", "funcName",
   "created", "msecs", "relativeCreated", "thread", "threadName",
   "processName", "process", "message", "asctime"]

/-- Whether what is attached under a key is shown. -/
def isShown (key : String) : Bool :=
  !ownKeys.contains key && key.toList.head? != some '_'

/-- What is shown for a value attached under a key. -/
def shownValue (key : String) (v : LogValue) : Json :=
  if isSecret key then .str "[REDACTED]"
  else
    match v with
    | .plain (.str s) => .str (cut maxText s)
    | v => v.json

/-- The entries for what is attached to a record. -/
def extraEntries (extras : List (String × LogValue)) :
    List (String × Json) :=
  (extras.filter fun e => isShown e.1).map fun e =>
    (e.1, shownValue e.1 e.2)

/-- Attach a value under a key: it may take the place of a part. -/
def attach (r : Record) (key : String) (v : LogValue) : Record :=
  match key with
  | "name" => { r with logger := v }
  | "levelname" => { r with level := v }
  | "msg" => { r with message := v }
  | "args" => { r with args := v }
  | "exc_info" => { r with fault := .value v }
  | _ => { r with extras := r.extras ++ [(key, v)] }

/-- Attach values one after the other. -/
def attachAll (r : Record) (extras : List (String × LogValue)) : Record :=
  extras.foldl (fun r e => r.attach e.1 e.2) r

-- =============================================================== object

/-- An entry of a value that is there. -/
def entryFor (key : String) (v : Option Json) : List (String × Json) :=
  (v.map fun v => (key, v)).toList

/-- The message of a record, cut, as it can be written. -/
def shownMessage (r : Record) : Except RecordFault Template.Filled := do
  let filled ← (Template.fill r.message.shown r.args).mapError .template
  .ok
    { chars := (cut maxMessage filled.text).toList
      half? := filled.half?.filter (· < maxMessage) }

/-- The entries of a record in a context: what is attached may replace an
entry in its place. -/
def entries (r : Record) (c : TraceContext) :
    Except RecordFault (Table String Json) := do
  let message ← r.shownMessage
  let component ← component? r.logger
  let fault ← faultLine? r.fault
  let own : List (String × Json) :=
    [("timestamp", .str r.time),
     ("level", r.level.json),
     ("message", .str message.text),
     ("logger", r.logger.json),
     ("trace_id", (c.get? "trace_id").getD (.str "")),
     ("span_id", (c.get? "span_id").getD (.str ""))]
      ++ entryFor "component" (component.map .str)
      ++ entryFor "collection"
          ((c.get? "collection").filter Json.isTruthy)
      ++ entryFor "exception" (fault.map .str)
  .ok (Table.ofList (own ++ extraEntries r.extras))

/-- A record as an object, in a context. One whose message holds half a
character cannot be written. -/
def object (r : Record) (c : TraceContext) : Except RecordFault Json := do
  let entries ← r.entries c
  if (← r.shownMessage).half?.isSome then .error (.write .halfCharacter)
  else .ok (.obj entries.entries)

/-- The text of a record in a context. -/
def text (r : Record) (c : TraceContext) : Except RecordFault String := do
  (← r.object c).write.mapError .write

end Record

end SchemaAudit
