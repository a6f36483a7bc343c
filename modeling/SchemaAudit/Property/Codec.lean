/-
The two forms of a property value. On the wire a value is JSON, and one
meaning has several spellings; inside it is held as one canonical text.
`canonical` reads the wire form and `typed` writes the canonical text as
the JSON value of the property's kind.

With one text for each meaning, equal values are equal texts, and
comparing two fields needs no knowledge of spellings. That the two
functions fit together is `codec_isNormalForm`. Writing a canonical text
can fail for one reason: that of an integer with more than 4300 digits
is not read any more.
-/
import SchemaAudit.Data.Table
import SchemaAudit.Fault
import SchemaAudit.Text.Letter
import SchemaAudit.Text.Numeral

namespace SchemaAudit

/-- An ordered bag of properties with their canonical values. -/
abbrev Bag := Table Property String

/-- The canonical text of a truth value. -/
def flagText (b : Bool) : String := if b then "true" else "false"

namespace Property

/-- The canonical text of a flag: a truth value, or its word in any
case. -/
def canonicalFlag? : Json → Option String
  | .bool b => some (flagText b)
  | .str s =>
      let word := Text.lower s
      if word = "true" ∨ word = "false" then some word else none
  | _ => none

/-- The integer a wire value stands for: itself, or a numeral. -/
def integer? : Json → Option Int
  | .int n => some n
  | .str s => (Text.readInt s).toOption
  | _ => none

/-- The canonical text of an integer. -/
def canonicalInt? (raw : Json) : Option String :=
  (integer? raw).map toString

/-- The canonical text of a text: any scalar but null. -/
def canonicalText? : Json → Option String
  | .str s => some s
  | .bool b => some (flagText b)
  | .int n => some (toString n)
  | .float x => some (messageDecimals.render x)
  | _ => none

/-- The canonical text of a wire value, if it fits the property. -/
def canonical? (p : Property) (raw : Json) : Option String :=
  match p.kind with
  | .flag => canonicalFlag? raw
  | .int | .long => canonicalInt? raw
  | .text => canonicalText? raw

/-- The canonical text of a wire value. -/
def canonical (p : Property) (raw : Json) : Except Fault String :=
  match p.canonical? raw with
  | some c => .ok c
  | none => .error (.invalidValue raw p)

/-- The JSON value that a text stands for under a property. -/
def typed (p : Property) (value : String) :
    Except Text.NumeralFault Json :=
  match p.kind with
  | .flag => .ok (.bool (value == "true"))
  | .int | .long => (Text.readInt value).map .int
  | .text => .ok (.str value)

/-- The property that a JSON value names as a key. -/
def resolve (key : Json) : Except Fault Property :=
  match key.str?.bind ofKey? with
  | some p => .ok p
  | none => .error (.unknownProperty key)

end Property

/-- One entry of a wire object as a property and its canonical value. -/
def readEntry (e : String × Json) : Except Fault (Property × String) :=
  match Property.ofKey? e.1 with
  | none => .error (.unknownProperty (.str e.1))
  | some p => (p.canonical e.2).map fun c => (p, c)

/-- A wire object as a bag: the first key that is no property, or whose
value does not fit, refuses it. -/
def Bag.ofWire (raw : List (String × Json)) : Except Fault Bag :=
  (raw.mapM readEntry).map Table.ofList

end SchemaAudit
