/-
What a copy field means by a name. An exact name wins, a static field
before a dynamic one. A concrete name that templates catch stands for a
static field with the type and the settings of the longest of them.

The longest template is the one with the most characters, and the first
of these in the order of the table if there are several; but templates
that catch one name and are equally long have one ending, so there are
never several (`resolveReference_means`). A name that is no admissible
name of a static field is caught by no template, and a value that is no
string means no field at all.
-/
import SchemaAudit.Field

namespace SchemaAudit

namespace Field

/-- The field of a concrete name that a template stands for. -/
def instantiate (template : Field) (name : String) : Field :=
  ⟨.static, name, template.type, template.settings⟩

/-- The first of the fields with the longest name. -/
def longest? : List Field → Option Field
  | [] => none
  | f :: rest =>
      match longest? rest with
      | none => some f
      | some g =>
          if f.name.length < g.name.length then some g else some f

end Field

/-- The static field that the templates of a schema give for a concrete
name. -/
def caught? (dynamics : Table String Field) (name : String) :
    Option Field :=
  if EntryKind.static.admits name then
    (Field.longest? (dynamics.values.filter fun t => t.catches name)).map
      fun t => t.instantiate name
  else none

/-- The field that a name means. -/
def fieldNamed? (statics dynamics : Table String Field) (name : String) :
    Option Field :=
  ((statics.get? name).or (dynamics.get? name)).or
    (caught? dynamics name)

/-- The field that the end of a copy field with a role means; only a
string can mean one. The role, source or destination, is for the message.
-/
def resolveReference (role : String) (name : Json)
    (statics dynamics : Table String Field) : Except Fault Field :=
  match name.str?.bind (fieldNamed? statics dynamics) with
  | some f => .ok f
  | none => .error (.unresolved role name)

end SchemaAudit
