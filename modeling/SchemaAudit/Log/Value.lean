/-
Values attached to log records. What is attached comes from callers and
may be anything: beside JSON there are tuples, sets, paths, faults,
bytes, and whatever else can only be printed. In the text of a record a
tuple is a list, a set a list in ascending order if its members have
one, a path and a fault their text, and the others what they print.

The members of a set differ from one another and may not change;
`ofMembers` says what becomes of values that are put into a set.
-/
import SchemaAudit.Data.Json.Writer
import SchemaAudit.Data.Key
import SchemaAudit.Log.Raised
import SchemaAudit.Text.Path

namespace SchemaAudit

/-- A value attached to a log record. -/
inductive LogValue where
  | plain (v : Json)
  | list (items : List LogValue)
  | object (entries : List (String × LogValue))
  | tuple (items : List LogValue)
  | set (frozen : Bool) (items : List LogValue)
  | path (s : String)
  | raised (r : Raised)
  | bytes (bs : List UInt8)
  | printed (s : String)

namespace LogValue

-- ============================================================= literals

mutual

/-- What a value prints. -/
def literal : LogValue → String
  | .plain v => v.literal
  | .list items => "[" ++ ", ".intercalate (literals items) ++ "]"
  | .object entries =>
      "\x7b" ++ ", ".intercalate (entryLiterals entries) ++ "\x7d"
  | .tuple items => tupleLiteral (literals items)
  | .set false [] => "set()"
  | .set true [] => "frozenset()"
  | .set false items =>
      "\x7b" ++ ", ".intercalate (literals items) ++ "\x7d"
  | .set true items =>
      "frozenset(\x7b" ++ ", ".intercalate (literals items) ++ "\x7d)"
  | .path s => "PosixPath(" ++ Text.quoted (Text.normalPath s) ++ ")"
  | .raised r => r.literal
  | .bytes bs => Text.quotedBytes bs
  | .printed s => s

/-- What some values print. -/
def literals : List LogValue → List String
  | [] => []
  | v :: rest => literal v :: literals rest

/-- What some entries print. -/
def entryLiterals : List (String × LogValue) → List String
  | [] => []
  | (k, v) :: rest =>
      (Text.quoted k ++ ": " ++ literal v) :: entryLiterals rest

end

/-- The text of a value on its own. -/
def shown : LogValue → String
  | .plain v => v.shown
  | .path s => Text.normalPath s
  | .raised r => r.text
  | v => v.literal

/-- The word for the kind of a value in messages. -/
def kindWord : LogValue → String
  | .plain v => v.kindWord
  | .list _ => "list"
  | .object _ => "dict"
  | .tuple _ => "tuple"
  | .set false _ => "set"
  | .set true _ => "frozenset"
  | .path _ => "PosixPath"
  | .raised r => r.kind
  | .bytes _ => "bytes"
  | .printed _ => "object"

/-- Whether a value counts as present. -/
def isTruthy : LogValue → Bool
  | .plain v => v.isTruthy
  | .list items => !items.isEmpty
  | .object entries => !entries.isEmpty
  | .tuple items => !items.isEmpty
  | .set _ items => !items.isEmpty
  | .bytes bs => !bs.isEmpty
  | _ => true

-- ============================================================== members

/-- The slashes in front of a path, if there are any, and its parts. -/
def pathKey (s : String) : List String :=
  let root := Text.pathRoot s.toList
  (if root.isEmpty then [] else [String.ofList root]) ++ Text.pathParts s

mutual

/-- Whether two values are the same member of a set. What can only be
printed, and a fault, is the same as nothing else. -/
def same : LogValue → LogValue → Bool
  | .plain v, .plain w => v.same w
  | .tuple xs, .tuple ys => sameItems xs ys
  | .set _ xs, .set _ ys => xs.length == ys.length && allWithin xs ys
  | .path s, .path t => pathKey s == pathKey t
  | .bytes a, .bytes b => a == b
  | _, _ => false

/-- Whether two lists of values agree item by item. -/
def sameItems : List LogValue → List LogValue → Bool
  | [], [] => true
  | x :: xs, y :: ys => same x y && sameItems xs ys
  | _, _ => false

/-- Whether every one of some values is among others. -/
def allWithin : List LogValue → List LogValue → Bool
  | [], _ => true
  | x :: xs, ys => ys.any (fun y => same x y) && allWithin xs ys

end

mutual

/-- Refuse a value that may change as a member of a set. -/
def checkKey : LogValue → Except KeyFault Unit
  | .plain v => v.checkKey
  | .list _ => .error .list
  | .object _ => .error .object
  | .set false _ => .error .set
  | .tuple items => checkKeys items
  | _ => .ok ()

/-- Refuse the first of some values that may change. -/
def checkKeys : List LogValue → Except KeyFault Unit
  | [] => .ok ()
  | v :: rest => do
      checkKey v
      checkKeys rest

end

/-- Values without those that are the same as an earlier one. -/
def distinct (vs : List LogValue) : List LogValue :=
  vs.foldl (fun kept v =>
    if kept.any fun w => w.same v then kept else kept ++ [v]) []

/-- A set of values. -/
def ofMembers (frozen : Bool) (vs : List LogValue) :
    Except KeyFault LogValue := do
  checkKeys vs
  .ok (.set frozen (distinct vs))

-- ================================================================ order

/-- The numerator and the denominator of a finite number. -/
def ratio? : Json → Option (Int × Nat)
  | .bool b => some (b.toInt, 1)
  | .int n => some (n, 1)
  | .float x => x.signedRatio?
  | _ => none

/-- Whether a value is a number. -/
def isNumber : Json → Bool
  | .bool _ => true
  | .int _ => true
  | .float _ => true
  | _ => false

/-- Whether a number is negative beyond all that are finite. -/
def isBottom : Json → Bool
  | .float x => x.isInfinite && x.negative
  | _ => false

/-- Whether a value is the number that is no number. -/
def isNoNumber : Json → Bool
  | .float x => x.isNaN
  | _ => false

/-- Whether one number is less than another. -/
def numberBefore (a b : Json) : Bool :=
  if isNoNumber a || isNoNumber b then false
  else
    match ratio? a, ratio? b with
    | some x, some y => x.1 * y.2 < y.1 * x.2
    | none, some _ => isBottom a
    | some _, none => !isBottom b
    | none, none => isBottom a && !isBottom b

/-- Whether one plain value comes before another; none if they have no
order. -/
def plainBefore? : Json → Json → Option Bool
  | .str a, .str b => some (a < b)
  | a, b =>
      if isNumber a && isNumber b then some (numberBefore a b) else none

mutual

/-- Whether one value comes before another; none if they have no order. A
set comes before those that hold all of its members and more. -/
def before? : LogValue → LogValue → Option Bool
  | .plain v, .plain w => plainBefore? v w
  | .tuple xs, .tuple ys => itemsBefore? xs ys
  | .set _ xs, .set _ ys =>
      some (xs.length < ys.length && allWithin xs ys)
  | .path s, .path t => some (pathKey s < pathKey t)
  | .bytes a, .bytes b => some (a.map UInt8.toNat < b.map UInt8.toNat)
  | _, _ => none

/-- Whether one list of values comes before another: the first items that
differ decide. -/
def itemsBefore? : List LogValue → List LogValue → Option Bool
  | [], ys => some (!ys.isEmpty)
  | _ :: _, [] => some false
  | x :: xs, y :: ys =>
      if same x y then itemsBefore? xs ys else before? x y

end

/-- Whether any two of some values have an order. -/
def areOrdered (vs : List LogValue) : Bool :=
  vs.all fun v => vs.all fun w => (before? v w).isSome

/-- The JSON forms of values, given beside them, in ascending order of
the values; without one, in the order of the forms as text. -/
def arrange (vs : List LogValue) (forms : List Json) : List Json :=
  if areOrdered vs then
    ((vs.zip forms).mergeSort fun a b =>
      before? b.1 a.1 != some true).map Prod.snd
  else
    forms.mergeSort fun a b =>
      String.ofList a.chars ≤ String.ofList b.chars

-- ================================================================ JSON

mutual

/-- A value as JSON. -/
def json : LogValue → Json
  | .plain v => v
  | .list items => .arr (jsonItems items)
  | .object entries => .obj (jsonEntries entries)
  | .tuple items => .arr (jsonItems items)
  | .set _ items => .arr (arrange items (jsonItems items))
  | .path s => .str (Text.normalPath s)
  | .raised r => .str (if r.isOrdinary then r.text else r.literal)
  | .bytes bs => .str (Text.quotedBytes bs)
  | .printed s => .str s

/-- Values as JSON. -/
def jsonItems : List LogValue → List Json
  | [] => []
  | v :: rest => json v :: jsonItems rest

/-- Entries as JSON. -/
def jsonEntries : List (String × LogValue) → List (String × Json)
  | [] => []
  | (k, v) :: rest => (k, json v) :: jsonEntries rest

end

/-- What stands for a value that JSON has no form for; a value that it
has one for is printed. -/
def fallback : LogValue → Json
  | .set frozen items => json (.set frozen items)
  | .path s => json (.path s)
  | .raised r => json (.raised r)
  | v => .str v.literal

end LogValue

end SchemaAudit
