/-
Labels of domain names that run from right to left. If a label holds
Hebrew or Arabic, its first letter says how it runs, and all that stands
in it must go along with that.
-/
import SchemaAudit.Domain.Direction.Table
import SchemaAudit.Text.Ranges

namespace SchemaAudit.Domain

/-- The directions of code points. -/
inductive Direction where
  | left
  | right
  | arabic
  | arabicDigit
  | digit
  | separator
  | neutral
  | boundary
  | attached
  | unknown
  deriving DecidableEq, Repr

namespace Direction

/-- The direction of a code point that may stand in a label. -/
def of (n : Nat) : Direction :=
  if n = 0x2d then separator
  else if n = 0x200c ∨ n = 0x200d then boundary
  else if Text.inRanges n rightRanges then right
  else if Text.inRanges n arabicRanges then arabic
  else if Text.inRanges n arabicDigitRanges then arabicDigit
  else if Text.inRanges n digitRanges then digit
  else if Text.inRanges n neutralRanges then neutral
  else if Text.inRanges n attachedRanges then attached
  else if Text.inRanges n unknownRanges then unknown
  else left

/-- Whether a direction is that of Hebrew or Arabic. -/
def isRightward : Direction → Bool
  | right | arabic | arabicDigit => true
  | _ => false

/-- Whether a code point may stand in a label from right to left. -/
def fitsRight (d : Direction) : Bool := d != left && d != unknown

/-- Whether a code point may stand in a label from left to right. -/
def fitsLeft (d : Direction) : Bool :=
  !d.isRightward && d != unknown

/-- Whether a label from right to left may end in a code point. -/
def endsRight (d : Direction) : Bool := d.isRightward || d == digit

/-- Whether a label from left to right may end in a code point. -/
def endsLeft (d : Direction) : Bool := d == left || d == digit

end Direction

/-- What is wrong with the directions of a label. Positions count from
one. -/
inductive DirectionFault where
  | unknown (position : Nat)
  | first
  | inRight (position : Nat)
  | inLeft (position : Nat)
  | numerals
  | ending
  deriving DecidableEq, Repr

namespace Direction

/-- The position of the first direction that fails a test. -/
def firstNot? (p : Direction → Bool) (ds : List Direction) :
    Option Nat :=
  let before := ds.takeWhile p
  if before.length < ds.length then some (before.length + 1) else none

/-- The position at which a second kind of digits appears. -/
def mixedDigits? (ds : List Direction) : Option Nat :=
  let kind := ds.find? fun d => d == digit || d == arabicDigit
  let other := if kind = some digit then arabicDigit else digit
  firstNot? (· != other) ds

/-- Whether the last direction that is not of a mark passes a test. -/
def endsIn (p : Direction → Bool) (ds : List Direction) : Bool :=
  ((ds.reverse.find? (· != attached)).map p).getD false

/-- What is wrong in a label from right to left. -/
def checkRight (ds : List Direction) : Except DirectionFault Unit :=
  match firstNot? fitsRight ds, mixedDigits? ds with
  | some i, some j => .error (if j < i then .numerals else .inRight i)
  | some i, none => .error (.inRight i)
  | none, some _ => .error .numerals
  | none, none => if endsIn endsRight ds then .ok () else .error .ending

/-- What is wrong in a label from left to right. -/
def checkLeft (ds : List Direction) : Except DirectionFault Unit :=
  match firstNot? fitsLeft ds with
  | some i => .error (.inLeft i)
  | none => if endsIn endsLeft ds then .ok () else .error .ending

/-- Check the directions of a label. -/
def check (label : List Nat) : Except DirectionFault Unit :=
  let ds := label.map of
  match firstNot? (· != unknown) ds with
  | some i => .error (.unknown i)
  | none =>
      if !ds.any isRightward then .ok ()
      else
        match ds.head? with
        | some .right | some .arabic => checkRight ds
        | some .left => checkLeft ds
        | _ => .error .first

end Direction

end SchemaAudit.Domain
