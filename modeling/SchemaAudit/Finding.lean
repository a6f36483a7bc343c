/-
Findings: one discrepancy each between the live schema and the expected
one, or inside the live schema. A finding has a kind, which says what
was looked for, a severity, which says what it does to the verdict, a
message for people, and the name or the pair of names it is about, if
there is one.

Severities go with kinds for the most part, and not always: of an
expected copy field the missing one is an error, and one with another
limit a warning. Words stand for kinds and severities wherever they
leave the program, and each is of one thing only
(`FindingKind.ofWord?_word`, `Severity.ofWord?_word`).
-/

namespace SchemaAudit

/-- How grave a finding is. -/
inductive Severity where
  | info
  | warning
  | error
  deriving DecidableEq, Repr

namespace Severity

/-- The word for a severity. -/
def word : Severity → String
  | .info => "info"
  | .warning => "warning"
  | .error => "error"

/-- All severities. -/
def all : List Severity := [.info, .warning, .error]

/-- The severity of a word. -/
def ofWord? (s : String) : Option Severity :=
  all.find? fun x => x.word == s

end Severity

/-- What a finding is about. -/
inductive FindingKind where
  | liveOnlyField
  | missingField
  | propertyMismatch
  | unknownProperty
  | unknownFieldType
  | invalidField
  | unresolvedCopyField
  | invalidCopyField
  | missingCopyField
  | liveOnlyCopyField
  | copyFieldRule
  deriving DecidableEq, Repr

namespace FindingKind

/-- The word for a kind of finding. -/
def word : FindingKind → String
  | .liveOnlyField => "live_only_field"
  | .missingField => "missing_field"
  | .propertyMismatch => "property_mismatch"
  | .unknownProperty => "unknown_property"
  | .unknownFieldType => "unknown_field_type"
  | .invalidField => "invalid_field"
  | .unresolvedCopyField => "unresolved_copy_field"
  | .invalidCopyField => "invalid_copy_field"
  | .missingCopyField => "missing_copy_field"
  | .liveOnlyCopyField => "live_only_copy_field"
  | .copyFieldRule => "copy_field_rule"

/-- All kinds of findings. -/
def all : List FindingKind :=
  [.liveOnlyField, .missingField, .propertyMismatch, .unknownProperty,
   .unknownFieldType, .invalidField, .unresolvedCopyField,
   .invalidCopyField, .missingCopyField, .liveOnlyCopyField,
   .copyFieldRule]

/-- The kind of finding of a word. -/
def ofWord? (s : String) : Option FindingKind :=
  all.find? fun x => x.word == s

end FindingKind

/-- One discrepancy. -/
structure Finding where
  kind : FindingKind
  severity : Severity
  message : String
  subject : Option String
  deriving DecidableEq

namespace Finding

/-- A text filled with blanks up to a width. -/
def padded (width : Nat) (s : String) : String :=
  s ++ String.ofList (List.replicate (width - s.length) ' ')

/-- The line of a finding: severity and kind in columns, then the
message. -/
def line (f : Finding) : String :=
  padded 7 f.severity.word ++ " " ++ padded 22 f.kind.word ++ " "
    ++ f.message

end Finding

end SchemaAudit
