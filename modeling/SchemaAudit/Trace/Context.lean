/-
The trace context: what log records carry so that the records of one run
can be found together.

A context is a table with a trace id, a span id and whatever else was
set. One without a trace id counts as none: asked for, it gives way to a
fresh one, with everything that it held (`get`). So an update of the
span id on a context that was never set is lost with the next look at
it.

Ids that are made afresh come from outside; they are arguments here
(`FreshIds`), so that what is said of contexts holds whichever ids are
drawn. A new context is refused if one of the further names is that of
an id, since the ids are given by arguments of their own (`set`).
-/
import SchemaAudit.Data.Json
import SchemaAudit.Data.Table

namespace SchemaAudit

/-- A trace context: a trace id, a span id, and what else was set. -/
abbrev TraceContext := Table String Json

namespace TraceContext

/-- Ids made afresh: that of a trace and that of a span. -/
structure FreshIds where
  trace : String
  span : String

/-- A context of fresh ids. -/
def fresh (ids : FreshIds) : TraceContext :=
  Table.ofList [("trace_id", .str ids.trace), ("span_id", .str ids.span)]

/-- Whether a context has a trace id. -/
def isUsable (c : TraceContext) : Bool :=
  ((c.get? "trace_id").getD .null).isTruthy

/-- The context that is asked for: the one in force if it has a trace id,
else a fresh one, which is in force from then on. -/
def get (ids : FreshIds) : Option TraceContext → TraceContext
  | some c => if isUsable c then c else fresh ids
  | none => fresh ids

/-- Names that a context sets itself and that cannot be set as well. -/
def isReserved (name : String) : Bool :=
  name == "trace_id" || name == "span_id"

/-- A name was set that the context sets itself. -/
structure SetFault where
  name : String
  deriving DecidableEq

/-- The wording of the refusal of a name. -/
def SetFault.message (f : SetFault) : String :=
  "set_trace_context() got multiple values for argument "
    ++ Text.quoted f.name

/-- A new context. -/
def set (trace span : Json) (others : List (String × Json)) :
    Except SetFault TraceContext :=
  match others.find? fun e => isReserved e.1 with
  | some (name, _) => .error ⟨name⟩
  | none =>
      .ok (Table.ofList (("trace_id", trace) :: ("span_id", span) :: others))

/-- The context in force with another span id. Where none is in force, one
comes into being that has the span id alone, and that a look takes for
none. -/
def update (span : Json) (c : Option TraceContext) : TraceContext :=
  (c.getD Table.empty).put "span_id" span

/-- A look at a context that has a trace id gives that context, and draws
on none of the fresh ids. -/
theorem get_of_isUsable {c : TraceContext} (ids : FreshIds)
    (h : isUsable c = true) : get ids (some c) = c := by
  simp [get, h]

end TraceContext

end SchemaAudit
