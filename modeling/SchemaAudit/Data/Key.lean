/-
What can be looked up in a set. Lists, objects and sets that may change
cannot.
-/
import SchemaAudit.Data.Json

namespace SchemaAudit

/-- Values that cannot be looked up in a set. -/
inductive KeyFault where
  | list
  | object
  | set
  deriving DecidableEq, Repr

/-- The wording of the refusal of a value as a key. -/
def KeyFault.message : KeyFault → String
  | .list => "unhashable type: 'list'"
  | .object => "unhashable type: 'dict'"
  | .set => "unhashable type: 'set'"

/-- Refuse a value that cannot be looked up. -/
def Json.checkKey : Json → Except KeyFault Unit
  | .arr _ => .error .list
  | .obj _ => .error .object
  | _ => .ok ()

end SchemaAudit
