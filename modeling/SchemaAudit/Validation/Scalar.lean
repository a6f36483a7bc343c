/-
Lenient reading of scalars: a flag may be a number or a word, and a
number a numeral, with white space around it. This is how records are
read that people write; property values of the wire are read more
strictly, by their own codec.
-/
import SchemaAudit.Data.Json
import SchemaAudit.Number.Numeral
import SchemaAudit.Validation.Issue

namespace SchemaAudit.Validation

/-- The words for true. -/
def trueWords : List String := ["1", "t", "y", "on", "yes", "true"]

/-- The words for false. -/
def falseWords : List String := ["0", "f", "n", "no", "off", "false"]

/-- The flag of a word, in any case of its ASCII letters. -/
def flagOfWord (s : String) : Except IssueKind Bool :=
  if trueWords.any (Text.sameLetters s) then .ok true
  else if falseWords.any (Text.sameLetters s) then .ok false
  else .error .flagUnknown

/-- Whether an integer fits in 64 bits with a sign. -/
def fitsSigned (n : Int) : Bool :=
  -0x8000000000000000 ≤ n && n < 0x8000000000000000

/-- The flag of an integer. -/
def flagOfInt (n : Int) : Except IssueKind Bool :=
  if n = 0 then .ok false
  else if n = 1 then .ok true
  else if fitsSigned n then .error .flagUnknown
  else .error .flagExpected

/-- Read a flag. -/
def readFlag : Json → Except IssueKind Bool
  | .bool b => .ok b
  | .int n => flagOfInt n
  | .float x =>
      match x.toInt? with
      | some n => flagOfInt n
      | none => .error .flagExpected
  | .str s => flagOfWord s
  | _ => .error .flagExpected

/-- Read a text of a least length. -/
def readText (least : Nat) : Json → Except IssueKind String
  | .str s => if s.length < least then .error .textTooShort else .ok s
  | _ => .error .textExpected

-- ============================================================ integers

/-- A numeral without the zeros in front of it, underscores among them
included; one zero stays in front of a point. A numeral that has neither
a digit nor a minus in front, or behind such zeros, has no such form. -/
def dropLeadingZeros? : List Char → Option (List Char)
  | '0' :: rest =>
      let tail := rest.dropWhile fun c => c == '0' || c == '_'
      match tail with
      | [] => some [(rest.getLast?).getD '0']
      | c :: _ =>
          if c.isDigit ∨ c = '-' then some tail
          else if c = '.' then
            some ((('0' :: rest).drop (rest.length - tail.length)))
          else none
  | c :: rest =>
      if c.isDigit ∨ c = '-' then some (c :: rest) else none
  | [] => none

/-- A numeral without a point that has zeros behind it, at least one and
nothing else. -/
def dropZeroPlaces (cs : List Char) : List Char :=
  let ints := cs.takeWhile (· != '.')
  match cs.drop ints.length with
  | '.' :: places =>
      if !places.isEmpty && places.all (· == '0') then ints else cs
  | _ => cs

/-- A minus in front and what follows it. -/
def splitMinus : List Char → List Char × List Char
  | '-' :: rest => (['-'], rest)
  | cs => ([], cs)

/-- A setting's numeral as a sign and plain digits. -/
def cleanNumeral? (s : String) : Option (List Char) := do
  let cs := Text.trimBoth Text.isWhiteSpace s.toList
  let cs ← match cs with
    | '+' :: '-' :: _ => none
    | '+' :: rest => some rest
    | _ => some cs
  let (minus, cs) := splitMinus cs
  let cs ← dropLeadingZeros? cs
  let cs := dropZeroPlaces (minus ++ cs)
  some ((Number.dropLooseUnderscores? cs).getD cs)

/-- Read an integer from a numeral: no zero in front of other digits. The
length of the digits and their minus is looked at before what follows
them. -/
def intOfNumeral (s : String) : Except IssueKind Int :=
  match cleanNumeral? s with
  | none => .error .integerUnknown
  | some cs =>
      let (minus, body) := splitMinus cs
      let ds := body.takeWhile Char.isDigit
      if ds.isEmpty || (ds.head? == some '0' && 1 < ds.length) then
        .error .integerUnknown
      else if Text.maxNumeralDigits < minus.length + ds.length then
        .error .integerTooLong
      else if ds.length < body.length then .error .integerUnknown
      else
        let n : Nat := Text.digitsValue ds
        .ok (if minus.isEmpty then n else -n)

/-- Read an integer from a double. -/
def intOfDouble (x : Binary64) : Except IssueKind Int :=
  if x.isNaN || x.isInfinite then .error .numberInfinite
  else match x.toInt? with
    | none => .error .integerFraction
    | some n =>
        if -0x8000000000000000 < n ∧ n < 0x8000000000000000 then .ok n
        else .error .integerTooLong

/-- Read an integer. -/
def readInt : Json → Except IssueKind Int
  | .int n => .ok n
  | .bool b => .ok b.toInt
  | .float x => intOfDouble x
  | .str s => intOfNumeral s
  | _ => .error .integerExpected

-- ============================================================= doubles

/-- Read a double. -/
def readDouble : Json → Except IssueKind Binary64
  | .float x => .ok x
  | .int n =>
      match Binary64.ofInt? n with
      | some x => .ok x
      | none => .error .numberExpected
  | .bool b => .ok (Binary64.ofRatio false b.toNat 1)
  | .str s =>
      match Number.readSetting? s with
      | some x => .ok x
      | none => .error .numberUnknown
  | _ => .error .numberExpected

end SchemaAudit.Validation
