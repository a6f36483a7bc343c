/-
Values together with the lines that were logged on the way to them. The
lines stand in the order in which they were written.

It is a monad, so that code that logs reads like code that does not.
What is proved of results speaks of `value` alone, which passes through
binds by itself; so no such proof has to know a line.
-/
import SchemaAudit.Log.Entry

namespace SchemaAudit

/-- A value and the lines logged on the way to it. -/
structure Logged (α : Type) where
  value : α
  lines : List LogLine

namespace Logged

instance : Monad Logged where
  pure a := ⟨a, []⟩
  bind x f := ⟨(f x.value).value, x.lines ++ (f x.value).lines⟩

/-- Log one line. -/
def note (level : Level) (writer : Writer) (message : String) :
    Logged Unit :=
  ⟨(), [⟨level, writer, message⟩]⟩

variable {α β : Type}

theorem value_bind (x : Logged α) (f : α → Logged β) :
    (x >>= f).value = (f x.value).value := rfl

end Logged

end SchemaAudit
