/-
Spans: named stretches of work, one inside the other. A span that ends
in a fault carries the fault, and so does every span around it; what was
still to be done inside them is left undone.

Work is given as a tree, and running it leaves a trail: the context that
each span was opened in, in the order of the beginnings, and the spans
in the order of their ends, a span behind those inside it. Each span
publishes an id as it is opened and takes nothing back as it ends, so
that the context behind a span is the one inside it.
-/
import SchemaAudit.Log.Value
import SchemaAudit.Trace.Context

namespace SchemaAudit

/-- Work in spans: the children come first, then the fault if there is
one. -/
inductive Work where
  | span (name : String) (attributes : List (String × Json))
      (children : List Work) (fault : Option Raised)

/-- A span that has ended. -/
structure Span where
  name : String
  parent : Option String
  attributes : List (String × Json)
  fault : Option Raised

namespace Span

/-- The word for how a span ended. -/
def status (s : Span) : String :=
  if s.fault.isSome then "ERROR" else "UNSET"

/-- The description of how a span ended. -/
def description (s : Span) : Option String :=
  s.fault.map fun f => f.kind ++ ": " ++ f.text

-- ========================================================== attributes

/-- Whether a value may be an attribute by itself. -/
def isPrimitive : Json → Bool
  | .bool _ => true
  | .int _ => true
  | .float _ => true
  | .str _ => true
  | _ => false

/-- Whether the values that are not null are of one primitive kind. -/
def isUniform (items : List Json) : Bool :=
  let there := items.filter fun v => v != .null
  there.all fun v =>
    isPrimitive v && some v.kindWord == there.head?.map Json.kindWord

/-- Whether an attribute is kept: a primitive value or a uniform list
under a name that is not empty. -/
def isAttribute : String × Json → Bool
  | ("", _) => false
  | (_, .arr items) => isUniform items
  | (_, v) => isPrimitive v

-- ============================================================= running

/-- What running leaves behind: the context in force, the context of each
span as it was opened, the spans in the order of their ends, and the
fault that ended it. -/
structure Trail where
  context : Option TraceContext
  opened : List TraceContext
  ended : List Span
  fault : Option Raised

mutual

/-- Do work inside a span; `spanId` is what every span publishes. -/
def run (spanId : Json) (parent : Option String)
    (context : Option TraceContext) : Work → Trail
  | .span name attributes children fault =>
      let here := TraceContext.update spanId context
      let inner := runAll spanId (some name) (some here) children
      let fault := inner.fault.or fault
      let span : Span :=
        ⟨name, parent, attributes.filter isAttribute, fault⟩
      ⟨inner.context, here :: inner.opened, inner.ended ++ [span], fault⟩

/-- Do work one after the other, up to the first fault. -/
def runAll (spanId : Json) (parent : Option String)
    (context : Option TraceContext) : List Work → Trail
  | [] => ⟨context, [], [], none⟩
  | w :: rest =>
      let first := run spanId parent context w
      match first.fault with
      | some _ => first
      | none =>
          let others := runAll spanId parent first.context rest
          ⟨others.context, first.opened ++ others.opened,
            first.ended ++ others.ended, others.fault⟩

end

end Span

end SchemaAudit
