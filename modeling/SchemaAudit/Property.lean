/-
The closed set of attributes that a field type, a field, a dynamic field
or a copy field may carry: the key each is written under, the kind of
value it takes, and the value the engine assumes when it is absent.
`ofKey?_key` says that the key of a property finds the property again.

Properties are an enumeration and not texts, so that a key from outside
is recognised once, where it comes in, and a bag cannot hold another.
What is assumed of an absent property concerns the engine alone: it is
neither filled in nor compared, and has a part only in what a field has
in effect.
-/

namespace SchemaAudit

/-- The kinds of property values. -/
inductive ValueKind where
  | flag
  | text
  | int
  | long
  deriving DecidableEq, Repr

/-- The word for a kind of value. -/
def ValueKind.word : ValueKind → String
  | .flag => "bool"
  | .text => "string"
  | .int => "int"
  | .long => "long"

/-- The attributes of schema entries. `name` and `type` are those of the
entry itself, `implementation` belongs to field types, and `source`,
`dest` and `maxChars` to copy fields. -/
inductive Property where
  | name
  | implementation
  | type
  | default
  | precisionStep
  | positionIncrementGap
  | autoGeneratePhraseQueries
  | synonymQueryStyle
  | enableGraphQueries
  | docValuesFormat
  | postingsFormat
  | indexed
  | stored
  | docValues
  | sortMissingFirst
  | sortMissingLast
  | multiValued
  | uninvertible
  | omitNorms
  | omitTermFreqAndPositions
  | omitPositions
  | termVectors
  | termPositions
  | termOffsets
  | termPayloads
  | required
  | useDocValuesAsStored
  | large
  | source
  | dest
  | maxChars
  deriving DecidableEq, Repr

namespace Property

/-- All properties in the order of the registry. -/
def all : List Property :=
  [.name, .implementation, .type, .default, .precisionStep,
   .positionIncrementGap, .autoGeneratePhraseQueries, .synonymQueryStyle,
   .enableGraphQueries, .docValuesFormat, .postingsFormat, .indexed,
   .stored, .docValues, .sortMissingFirst, .sortMissingLast,
   .multiValued, .uninvertible, .omitNorms, .omitTermFreqAndPositions,
   .omitPositions, .termVectors, .termPositions, .termOffsets,
   .termPayloads, .required, .useDocValuesAsStored, .large, .source,
   .dest, .maxChars]

/-- The key a property is written under. -/
def key : Property → String
  | .name => "name"
  | .implementation => "class"
  | .type => "type"
  | .default => "default"
  | .precisionStep => "precisionStep"
  | .positionIncrementGap => "positionIncrementGap"
  | .autoGeneratePhraseQueries => "autoGeneratePhraseQueries"
  | .synonymQueryStyle => "synonymQueryStyle"
  | .enableGraphQueries => "enableGraphQueries"
  | .docValuesFormat => "docValuesFormat"
  | .postingsFormat => "postingsFormat"
  | .indexed => "indexed"
  | .stored => "stored"
  | .docValues => "docValues"
  | .sortMissingFirst => "sortMissingFirst"
  | .sortMissingLast => "sortMissingLast"
  | .multiValued => "multiValued"
  | .uninvertible => "uninvertible"
  | .omitNorms => "omitNorms"
  | .omitTermFreqAndPositions => "omitTermFreqAndPositions"
  | .omitPositions => "omitPositions"
  | .termVectors => "termVectors"
  | .termPositions => "termPositions"
  | .termOffsets => "termOffsets"
  | .termPayloads => "termPayloads"
  | .required => "required"
  | .useDocValuesAsStored => "useDocValuesAsStored"
  | .large => "large"
  | .source => "source"
  | .dest => "dest"
  | .maxChars => "maxChars"

/-- The kind of value a property takes. -/
def kind : Property → ValueKind
  | .name => .text
  | .implementation => .text
  | .type => .text
  | .default => .text
  | .precisionStep => .long
  | .positionIncrementGap => .text
  | .synonymQueryStyle => .text
  | .docValuesFormat => .text
  | .postingsFormat => .text
  | .source => .text
  | .dest => .text
  | .maxChars => .int
  | _ => .flag

/-- What the engine assumes when a property is absent. -/
def assumed? : Property → Option String
  | .enableGraphQueries => some "true"
  | .indexed => some "true"
  | .stored => some "true"
  | .docValues => some "false"
  | .sortMissingFirst => some "false"
  | .sortMissingLast => some "false"
  | .multiValued => some "false"
  | .uninvertible => some "true"
  | .termVectors => some "false"
  | .termPositions => some "false"
  | .termOffsets => some "false"
  | .termPayloads => some "false"
  | .required => some "false"
  | .useDocValuesAsStored => some "true"
  | .large => some "false"
  | _ => none

/-- The property written under a key. -/
def ofKey? (key : String) : Option Property :=
  all.find? fun p => p.key == key

/-- The list of properties is complete, so that a look-up in it misses
none. -/
theorem mem_all (p : Property) : p ∈ all := by
  cases p <;> decide

/-- The key of a property finds the property again. Hence no two
properties have one key, and a bag can be written and read. -/
theorem ofKey?_key (p : Property) : ofKey? p.key = some p := by
  cases p <;> decide

/-- What is found under a key is written under this key and under no
other. -/
theorem key_of_ofKey? {k : String} {p : Property}
    (h : ofKey? k = some p) : p.key = k := by
  have := List.find?_some h
  simpa using this

end Property

end SchemaAudit
