/-
Sets of code points as ascending ranges, both ends of a range included.
-/

namespace SchemaAudit.Text

/-- Whether a code point lies in one of some ascending ranges. -/
def inRanges (n : Nat) : List (Nat × Nat) → Bool
  | [] => false
  | (low, high) :: rest =>
      if n < low then false else if n ≤ high then true
      else inRanges n rest

end SchemaAudit.Text
