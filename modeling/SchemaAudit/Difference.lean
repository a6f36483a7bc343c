/-
How a live field differs from the expected one: in its type, or in the
value that a property takes.

A property is looked at if one of the two fields sets it; what both
leave to their types and to the engine is compared through the name of
the type. The values compared are those in effect, so a field that sets
a property to what its type would have given it does not differ from one
that leaves it out.

Differences come in a fixed order, the type first and the properties in
ascending order of their keys, so that a report on the same two fields
always reads the same. That they are complete for fields whose types are
of the catalog is `Field.differences_eq_nil`.
-/
import SchemaAudit.Field

namespace SchemaAudit

/-- All properties in ascending order of their keys. -/
def Property.byKey : List Property :=
  Property.all.mergeSort fun p q => p.key ≤ q.key

/-- Every property stands in the ascending row of them, so no property is
left out when two fields are compared. -/
theorem Property.mem_byKey (p : Property) : p ∈ Property.byKey :=
  List.mem_mergeSort.2 p.mem_all

/-- Something in which a live field differs from the expected one. -/
inductive Difference where
  | type (expected found : String)
  | value (property : Property) (expected found : Option String)
  deriving DecidableEq

namespace Difference

/-- A value that may be missing, as it stands in messages. -/
def valueText : Option String → String
  | some v => Text.quoted v
  | none => Json.null.literal

/-- The wording of a difference. -/
def message : Difference → String
  | .type expected found =>
      "type expected " ++ Text.quoted expected ++ ", found "
        ++ Text.quoted found
  | .value property expected found =>
      property.key ++ " expected " ++ valueText expected ++ ", found "
        ++ valueText found

end Difference

namespace Field

/-- Whether a field sets a property beside its name and type. -/
def sets (f : Field) (p : Property) : Bool :=
  p ≠ .name ∧ p ≠ .type ∧ (f.get? p).isSome

/-- The difference between two fields in the value of one property. -/
def difference? (expected live : Field) (p : Property) :
    Option Difference :=
  if expected.effective p = live.effective p then none
  else some (.value p (expected.effective p) (live.effective p))

/-- The properties that one of two fields sets, in ascending order of
their keys. -/
def settled (expected live : Field) : List Property :=
  Property.byKey.filter fun p => expected.sets p || live.sets p

/-- All differences of a live field from the expected one: the type
first, then the properties in ascending order of their keys. -/
def differences (expected live : Field) : List Difference :=
  (if expected.type.name = live.type.name then []
    else [.type expected.type.name live.type.name])
    ++ (settled expected live).filterMap (difference? expected live)

end Field

end SchemaAudit
