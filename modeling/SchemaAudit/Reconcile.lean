/-
Reconciling the live schema with the expected one: what is only live,
what is missing, and what differs. Static fields come before dynamic
ones and both before copy fields.

# The order of findings

The names of fields stand in ascending order inside each group: first
those that are only live, then those that are missing, then those that
differ, each with its differences in the order that `Field.differences`
gives them.

Copy fields that are expected are gone through in the order of the
expected schema. Those that are only live come behind them, and here the
ascending order is this program's own choice: they form a set, which has
no order that a caller could rely on, and it has to be gone through in
some order. `liveOnlyKeys` sorts them by their labels, so that one live
schema always gives one report. No statement about findings speaks of
this order, and nothing may be read into it.

# Severities

What is missing and what differs is an error, another limit of a copy
field a warning, and what only the engine has is for information.
-/
import SchemaAudit.Difference
import SchemaAudit.Finding
import SchemaAudit.Schema

namespace SchemaAudit

-- ============================================================== fields

/-- The finding for a field that only the engine has. -/
def liveOnlyField (kind : FieldKind) (name : String) : Finding :=
  ⟨.liveOnlyField, .info,
    kind.entry.word ++ " " ++ name ++ " only in Solr", some name⟩

/-- The finding for a field that the engine lacks. -/
def missingField (kind : FieldKind) (name : String) : Finding :=
  ⟨.missingField, .error,
    kind.entry.word ++ " " ++ name ++ " missing in Solr", some name⟩

/-- The finding for a difference between fields of one name. -/
def fieldMismatch (kind : FieldKind) (name : String) (d : Difference) :
    Finding :=
  ⟨.propertyMismatch, .error,
    kind.entry.word ++ " " ++ name ++ ": " ++ d.message, some name⟩

/-- The differences between the fields of one name; none if one of the
tables lacks it, since that is a finding of another kind. -/
def differencesAt (expected live : Table String Field) (name : String) :
    List Difference :=
  match expected.get? name, live.get? name with
  | some e, some l => e.differences l
  | _, _ => []

/-- The findings on the fields of one kind. -/
def reconcileFields (kind : FieldKind)
    (expected live : Table String Field) : List Finding :=
  (onlyIn live expected).map (liveOnlyField kind)
    ++ (onlyIn expected live).map (missingField kind)
    ++ (inBoth expected live).flatMap fun name =>
        (differencesAt expected live name).map (fieldMismatch kind name)

-- ========================================================= copy fields

/-- How findings name a copy field. -/
def copyLabel (key : String × String) : String :=
  key.1 ++ " -> " ++ key.2

/-- The finding for a copy field that the engine lacks. -/
def missingCopy (key : String × String) : Finding :=
  ⟨.missingCopyField, .error,
    "copyField " ++ copyLabel key ++ " missing in Solr",
    some (copyLabel key)⟩

/-- The finding for a copy field that only the engine has. -/
def liveOnlyCopy (key : String × String) : Finding :=
  ⟨.liveOnlyCopyField, .info,
    "copyField " ++ copyLabel key ++ " only in Solr",
    some (copyLabel key)⟩

/-- The finding for a copy field with another limit. -/
def limitMismatch (key : String × String) (expected live : Nat) :
    Finding :=
  ⟨.propertyMismatch, .warning,
    "copyField " ++ copyLabel key ++ ": maxChars expected "
      ++ toString expected ++ ", found " ++ toString live,
    some (copyLabel key)⟩

/-- The copy field of a key, the first if there should be several. -/
def copyNamed? (cs : List CopyField) (key : String × String) :
    Option CopyField :=
  cs.find? fun c => c.key == key

/-- The findings on an expected copy field: that it is missing, or that it
is live with another limit. -/
def copyFindings (live : List CopyField) (c : CopyField) :
    List Finding :=
  match copyNamed? live c.key with
  | none => [missingCopy c.key]
  | some l =>
      if l.maxChars = c.maxChars then []
      else [limitMismatch c.key c.maxChars l.maxChars]

/-- The keys of live copy fields that are not expected. They are a set:
that they stand in ascending order of their labels is this program's own
choice among the orders in which a set can be gone through. Only the names
of fields are sorted by design. -/
def liveOnlyKeys (expected live : List CopyField) :
    List (String × String) :=
  ((live.map CopyField.key).filter fun key =>
    (copyNamed? expected key).isNone).mergeSort
      fun a b => copyLabel a ≤ copyLabel b

/-- The findings on copy fields. -/
def reconcileCopies (expected live : List CopyField) : List Finding :=
  expected.flatMap (copyFindings live)
    ++ (liveOnlyKeys expected live).map liveOnlyCopy

-- ============================================================== schema

/-- All findings of a live schema against the expected one. -/
def reconcile (expected live : Schema) : List Finding :=
  reconcileFields .static expected.statics live.statics
    ++ reconcileFields .dynamic expected.dynamics live.dynamics
    ++ reconcileCopies expected.copies live.copies

end SchemaAudit
