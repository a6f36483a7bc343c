/-
Overlays: properties that a caller gives for a new entry, in order. A
key is a property, or a foreign value that is none and that building the
entry will refuse. A key given twice keeps its first place and its last
value.

An overlay holds what was given, in any form, and a bag what became of
it. Between the two stands `fill`, which takes the entries in their
order, makes canonical texts of the values and stops at the first that
does not fit; so the first misfit is the one that is told.
-/
import SchemaAudit.Property.Codec

namespace SchemaAudit

/-- A key of an overlay. -/
inductive OverlayKey where
  | known (p : Property)
  | foreign (key : Json)

/-- Whether two keys are the same; a foreign key is never a property. -/
def OverlayKey.same : OverlayKey → OverlayKey → Bool
  | .known p, .known q => p == q
  | .foreign a, .foreign b => a.same b
  | _, _ => false

/-- Properties given for a new entry, in order. -/
abbrev Overlay := List (OverlayKey × Json)

namespace Overlay

/-- Write a value: an old key keeps its place, a new one comes last. -/
def put (key : OverlayKey) (value : Json) : Overlay → Overlay
  | [] => [(key, value)]
  | e :: rest =>
      if e.1.same key then (e.1, value) :: rest
      else e :: put key value rest

/-- Write the entries of a list one after the other. -/
def putAll (o : Overlay) (es : List (OverlayKey × Json)) : Overlay :=
  es.foldl (fun o e => o.put e.1 e.2) o

/-- The overlay that results from writing the entries of a list. -/
def ofList (es : List (OverlayKey × Json)) : Overlay := putAll [] es

/-- An overlay of properties with texts. -/
def ofTexts (es : List (Property × String)) : Overlay :=
  es.map fun e => (.known e.1, .str e.2)

/-- Whether an overlay sets a property. -/
def sets (o : Overlay) (p : Property) : Bool :=
  o.any fun e => e.1.same (.known p)

/-- Write the canonical values of an overlay into a bag; the first key
that is no property, or whose value does not fit, refuses it. -/
def fill (bag : Bag) : Overlay → Except Fault Bag
  | [] => .ok bag
  | (.foreign key, _) :: _ => .error (.foreignKey key)
  | (.known p, value) :: rest => do
      let c ← p.canonical value
      fill (bag.put p c) rest

end Overlay

end SchemaAudit
