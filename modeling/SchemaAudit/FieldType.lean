/-
Field types. A type is known by its name, the class that implements it
and the properties it sets for every field that uses it. The catalog of
built-in types is closed: a type name from outside either is in it or is
refused.

A type keeps all it sets in one bag, begun by its name and its class.
The bag is ordered, for the order shows on the wire, and its texts are
canonical like those of a field. `make` builds a type from what a caller
gives; the types of the catalog are written down as they are
(`builtIn`).

What a caller gives as overrides is written behind the name and may hold
a name itself. It is then the name of the type, and not checked
(`Construction.entryName_keeps_iff`).
-/
import SchemaAudit.Name
import SchemaAudit.Overlay

namespace SchemaAudit

/-- A field type: its bag holds the name, the implementing class and the
properties it sets. -/
structure FieldType where
  bag : Bag
  deprecated : Bool

namespace FieldType

/-- The name in the bag of a type. -/
def name (t : FieldType) : String := (t.bag.get? .name).getD ""

/-- The implementing class in the bag of a type. -/
def implementation (t : FieldType) : String :=
  (t.bag.get? .implementation).getD ""

/-- The value a type has for a property. -/
def get? (t : FieldType) (p : Property) : Option String := t.bag.get? p

/-- What a type sets beside its name and class. -/
def overrides (t : FieldType) : List (Property × String) :=
  t.bag.entries.filter fun e => e.1 ≠ .name ∧ e.1 ≠ .implementation

/-- A new type. The given name must fit the rule of types; the class is
written first and may be written again by the overrides. -/
def make (name implementation : Json) (overrides : Overlay)
    (deprecated : Bool) : Except Fault FieldType := do
  let name ← EntryKind.type.name name
  let given := Overlay.putAll [(.known .implementation, implementation)]
    overrides
  let bag ← given.fill (Table.empty.put .name name)
  .ok ⟨bag, deprecated⟩

/-- The value of a property of a type as JSON; null if it has none. -/
def typed (t : FieldType) (p : Property) :
    Except Text.NumeralFault Json :=
  match t.get? p with
  | some value => p.typed value
  | none => .ok .null

/-- The wire object of a type, in the order of its bag. -/
def toWire (t : FieldType) :
    Except Text.NumeralFault (List (String × Json)) :=
  t.bag.entries.mapM fun (p, value) =>
    (p.typed value).map fun v => (p.key, v)

-- ============================================================= catalog

/-- A type of the catalog. -/
def builtIn (name implementation : String)
    (overrides : List (Property × String)) (deprecated : Bool) :
    FieldType where
  bag := Table.ofList
    ((.name, name) :: (.implementation, implementation) :: overrides)
  deprecated := deprecated

/-- The type of analyzed English text. -/
def textEn : FieldType := builtIn "text_en" "solr.TextField" [] false

/-- The type of analyzed text of several values. -/
def textGeneral : FieldType :=
  builtIn "text_general" "solr.TextField" [(.multiValued, "true")] false

/-- The type of integers. -/
def integer : FieldType :=
  builtIn "pint" "solr.IntPointField" [(.docValues, "true")] false

/-- The type of fractional numbers. -/
def decimal : FieldType :=
  builtIn "pfloat" "solr.FloatPointField" [(.docValues, "true")] false

/-- The built-in types in catalog order. The deprecated ones are kept to
read older schemas. -/
def catalog : List FieldType :=
  [builtIn "string" "solr.StrField"
      [(.docValues, "true"), (.sortMissingLast, "true")] false,
   builtIn "strings" "solr.StrField"
      [(.docValues, "true"), (.multiValued, "true"),
        (.sortMissingLast, "true")] false,
   integer,
   builtIn "pints" "solr.IntPointField"
      [(.docValues, "true"), (.multiValued, "true")] false,
   builtIn "plong" "solr.LongPointField" [(.docValues, "true")] false,
   builtIn "plongs" "solr.LongPointField"
      [(.docValues, "true"), (.multiValued, "true")] false,
   decimal,
   builtIn "pfloats" "solr.FloatPointField"
      [(.docValues, "true"), (.multiValued, "true")] false,
   builtIn "pdouble" "solr.DoublePointField" [(.docValues, "true")] false,
   builtIn "pdoubles" "solr.DoublePointField"
      [(.docValues, "true"), (.multiValued, "true")] false,
   builtIn "pdate" "solr.DatePointField" [(.docValues, "true")] false,
   builtIn "pdates" "solr.DatePointField"
      [(.docValues, "true"), (.multiValued, "true")] false,
   builtIn "boolean" "solr.BoolField" [(.sortMissingLast, "true")] false,
   builtIn "booleans" "solr.BoolField"
      [(.sortMissingLast, "true"), (.multiValued, "true")] false,
   builtIn "int" "solr.TrieIntField"
      [(.precisionStep, "0"), (.positionIncrementGap, "0")] true,
   builtIn "long" "solr.TrieLongField"
      [(.precisionStep, "0"), (.positionIncrementGap, "0")] true,
   builtIn "date" "solr.TrieDateField"
      [(.precisionStep, "0"), (.positionIncrementGap, "0")] true,
   textEn,
   textGeneral,
   builtIn "text_general_rev" "solr.TextField" [] false,
   builtIn "alphaOnlySort" "solr.TextField" [] false]

/-- The built-in type of a name. -/
def find? (name : String) : Option FieldType :=
  catalog.find? fun t => t.name == name

/-- The built-in type that a value names. -/
def resolve (name : Json) : Except Fault FieldType :=
  match name.str?.bind find? with
  | some t => .ok t
  | none => .error (.unknownType name)

end FieldType

end SchemaAudit
