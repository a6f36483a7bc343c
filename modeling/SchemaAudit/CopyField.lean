/-
Copy fields: a source copied into a destination at indexing time, cut to
a number of characters. A dynamic destination needs a dynamic source, and
a source of several values needs such a destination. Two copy fields with
one pair of names are the same copy field.

A destination fed by two or more copy fields should hold several values;
`fanIns` finds those that do not, once a full set is there.
-/
import SchemaAudit.Field

namespace SchemaAudit

/-- The limit of characters where none is given. -/
def defaultMaxChars : Nat := 3000

/-- What is given as an end of a copy field. -/
inductive Endpoint where
  | absent
  | field (f : Field)
  | other

/-- A copy field. -/
structure CopyField where
  source : Field
  dest : Field
  maxChars : Nat

namespace CopyField

/-- The names that tell copy fields apart. -/
def key (c : CopyField) : String × String := (c.source.name, c.dest.name)

/-- A limit of characters: a positive integer. -/
def limit (given : Json) : Except Fault Nat :=
  match given with
  | .int n => if n < 1 then .error (.charLimit given) else .ok n.toNat
  | _ => .error (.charLimit given)

/-- A copy field between two fields. -/
def ofFields (source dest : Field) (given : Json) :
    Except Fault CopyField := do
  if dest.isWildcard && !source.isWildcard then
    throw (.wildcardDest dest.name source.name)
  if source.isMultivalued && !dest.isMultivalued then
    throw (.singleValuedDest dest.name source.name)
  let maxChars ← limit given
  .ok ⟨source, dest, maxChars⟩

/-- A copy field between whatever is given as its ends. -/
def make (source dest : Endpoint) (given : Json) :
    Except Fault CopyField :=
  match source, dest with
  | .absent, _ => .error .endpointAbsent
  | _, .absent => .error .endpointAbsent
  | .field s, .field d => ofFields s d given
  | _, _ => .error .endpointNotField

/-- The wire object of a copy field. -/
def toWire (c : CopyField) : List (String × Json) :=
  [(Property.source.key, .str c.source.name),
   (Property.dest.key, .str c.dest.name),
   (Property.maxChars.key, .int c.maxChars)]

/-- The limit of characters of a wire object; the usual one if it has
none. -/
def wireLimit (raw : List (String × Json)) : Except Fault Int :=
  match Json.find? Property.maxChars.key raw with
  | none => .ok defaultMaxChars
  | some value =>
      match Property.integer? value with
      | some n => .ok n
      | none => .error (.invalidValue value .maxChars)

/-- Append a copy field unless its key is there. -/
def insertNew (cs : List CopyField) (c : CopyField) : List CopyField :=
  if cs.any fun d => d.key == c.key then cs else cs ++ [c]

end CopyField

-- ============================================================== fan-in

/-- A destination of one value that several copy fields feed. -/
structure FanIn where
  dest : String
  count : Nat
  deriving DecidableEq

/-- The wording of a fan-in. -/
def FanIn.message (f : FanIn) : String :=
  "Dest " ++ Text.quoted f.dest ++ " receives from "
    ++ toString f.count ++ " copy fields but is not multivalued"

/-- How many copy fields feed a destination. -/
def fanInCount (cs : List CopyField) (dest : String) : Nat :=
  cs.countP fun c => c.dest.name == dest

/-- Walk a list of copy fields, reporting each faulty destination where
it is first met; `all` are the copy fields to count. -/
def fanInsFrom (all : List CopyField) :
    (seen : List String) → List CopyField → List FanIn
  | _, [] => []
  | seen, c :: rest =>
      let dest := c.dest.name
      let count := fanInCount all dest
      if seen.contains dest || count < 2 || c.dest.isMultivalued then
        fanInsFrom all seen rest
      else ⟨dest, count⟩ :: fanInsFrom all (dest :: seen) rest

/-- The destinations of one value that several copy fields feed. -/
def fanIns (cs : List CopyField) : List FanIn := fanInsFrom cs [] cs

end SchemaAudit
