/-
What the log shows of the lines written to it: those of at least the
level of the root logger, as plain text or as JSON objects. A line is
kept with the collection that the trace names at the time, if it names
one, since the form is chosen later than the line is written.
-/
import SchemaAudit.Log.Entry
import SchemaAudit.Log.Record
import SchemaAudit.Log.Setup

namespace SchemaAudit

/-- What a line is stamped with when it is written: the time, and the ids
of the trace in force. -/
structure Stamp where
  time : String
  ids : TraceContext.FreshIds

/-- A line of the log and the collection that the trace in force names,
if it names one. -/
structure TracedLine where
  line : LogLine
  collection : Option String
  deriving DecidableEq

namespace TracedLine

/-- The line without its time, as plain text. -/
def plain (l : TracedLine) : String :=
  l.line.level.word ++ " [" ++ l.line.writer.logger ++ "] "
    ++ l.line.message

/-- The trace context that a line is written in. -/
def context (l : TracedLine) (ids : TraceContext.FreshIds) :
    TraceContext :=
  match l.collection with
  | some c => (TraceContext.fresh ids).put "collection" (.str c)
  | none => TraceContext.fresh ids

/-- The line as a record. -/
def record (l : TracedLine) (time : String) : Record :=
  ⟨time, .plain (.str l.line.level.word),
   .plain (.str l.line.writer.logger), .plain (.str l.line.message),
   .tuple [], .absent, []⟩

/-- The line as the text of a JSON object. -/
def json (l : TracedLine) (s : Stamp) : String :=
  match (l.record s.time).text (l.context s.ids) with
  | .ok text => text
  | .error fault => fault.message

end TracedLine

namespace LogSetup

/-- Whether a line is shown. -/
def passes (s : LogSetup) (l : TracedLine) : Bool :=
  s.root ≤ l.line.level.weight

/-- What is shown of lines, without the times of plain lines. -/
def shown (s : LogSetup) (stamp : Stamp) (ls : List TracedLine) :
    List String :=
  (ls.filter s.passes).map fun l => if s.json then l.json stamp else l.plain

end LogSetup

end SchemaAudit
