/-
Checking records. A record is put together from checked parts; if some
of them have issues, those of all parts are told in the order of the
parts. This is what sets it apart from a row of steps, which would stop
at the first.
-/
import SchemaAudit.Data.Json
import SchemaAudit.Validation.Issue

namespace SchemaAudit

/-- A value, or what is wrong with what it was to be read from. -/
abbrev Checked (α : Type) := Except (List Issue) α

namespace Checked

variable {α β : Type}

/-- What is wrong. -/
def issues : Checked α → List Issue
  | .ok _ => []
  | .error is => is

/-- A record of which no part is read yet. -/
def start (f : α) : Checked α := .ok f

/-- Read one more part of a record; its issues come behind those of the
parts before it. -/
def and (x : Checked α) (f : Checked (α → β)) : Checked β :=
  match f, x with
  | .ok f, .ok a => .ok (f a)
  | _, _ => .error (issues f ++ issues x)

/-- A value that was read under a key. -/
def under (key : String) (x : Except IssueKind α) : Checked α :=
  x.mapError fun kind => [⟨kind, [key]⟩]

theorem and_eq_ok {f : Checked (α → β)} {x : Checked α} {b : β} :
    and x f = .ok b ↔ ∃ g a, f = .ok g ∧ x = .ok a ∧ g a = b := by
  cases f <;> cases x <;> simp [and]

end Checked

end SchemaAudit
