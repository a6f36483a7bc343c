/-
Reading JSON text. Beside the standard's values the reader takes `NaN`
and the two infinities; a key that occurs twice keeps its first place
and its last value. A refusal names the problem and the character at
which it was found.

# Two limits

An integer may have at most `maxIntegerDigits` digits, and arrays and
objects may stand in one another at most `maxDepth` deep. Neither is a
rule of the format or a constant of this program: both are limits of the
host it runs on. The first is a fixed limit on turning digits into an
integer. The second is where the host's limit on nested calls falls,
less the calls that are under way when a text is read.

# The recursion

The reader walks a list of characters and carries how many are left, so
that a position is the length of the text less what remains. Its fuel is
twice the length of the text: an item and the value in it both take
some, and every value takes at least one character. Room, by contrast,
is a limit that a text can exceed: it is the number of containers that
may still be opened.
-/
import SchemaAudit.Data.Json
import SchemaAudit.Data.Table

namespace SchemaAudit.Json

/-- What is wrong at a position of a text. -/
inductive Problem where
  | expectingValue
  | expectingName
  | expectingColon
  | expectingComma
  | unterminatedString
  | controlCharacter
  | unknownEscape
  | badCodePointEscape
  | extraData
  | byteOrderMark
  deriving DecidableEq, Repr

/-- The wording of a problem. -/
def Problem.text : Problem → String
  | .expectingValue => "Expecting value"
  | .expectingName => "Expecting property name enclosed in double quotes"
  | .expectingColon => "Expecting ':' delimiter"
  | .expectingComma => "Expecting ',' delimiter"
  | .unterminatedString => "Unterminated string starting at"
  | .controlCharacter => "Invalid control character at"
  | .unknownEscape => "Invalid \\escape"
  | .badCodePointEscape => "Invalid \\uXXXX escape"
  | .extraData => "Extra data"
  | .byteOrderMark => "Unexpected UTF-8 BOM (decode using utf-8-sig)"

/-- The values that hold others. -/
inductive Container where
  | array
  | object
  deriving DecidableEq, Repr

/-- The word for a container. -/
def Container.word : Container → String
  | .array => "array"
  | .object => "object"

/-- The wording for a container that stands too deep in others. -/
def Container.tooDeepMessage (c : Container) : String :=
  "maximum recursion depth exceeded while decoding a JSON " ++ c.word
    ++ " from a unicode string"

/-- A refusal: a problem with the number of characters left from where it
stands, an integer of too many digits, or a container too deep in
others. -/
inductive Refusal where
  | problem (what : Problem) (left : Nat)
  | tooManyDigits (count : Nat)
  | tooDeep (container : Container)
  deriving DecidableEq

/-- A refusal with its place in the text. -/
inductive ReadFault where
  | malformed (what : Problem) (line column position : Nat)
  | tooManyDigits (count : Nat)
  | tooDeep (container : Container)
  deriving DecidableEq

/-- The wording of a refusal. -/
def ReadFault.message : ReadFault → String
  | .malformed what line column position =>
      what.text ++ ": line " ++ toString line ++ " column "
        ++ toString column ++ " (char " ++ toString position ++ ")"
  | .tooManyDigits count =>
      "Exceeds the limit (4300 digits) for integer string conversion: "
        ++ "value has " ++ toString count
        ++ " digits; use sys.set_int_max_str_digits() to increase the limit"
  | .tooDeep container => container.tooDeepMessage

/-- The outcome of reading from the front of a list of characters: a
result and what is left. -/
abbrev Reading (α : Type) := Except Refusal (α × List Char)

/-- Refuse at the front of what is left. -/
def refuse {α : Type} (what : Problem) (cs : List Char) : Reading α :=
  .error (.problem what cs.length)

-- ============================================================== blanks

/-- The four characters that may stand between tokens. -/
def isGap (c : Char) : Bool :=
  c == ' ' || c == '\t' || c == '\n' || c == '\r'

/-- What is left after the characters between tokens. -/
def skipGap (cs : List Char) : List Char := cs.dropWhile isGap

-- ============================================================= strings

/-- The value of a hexadecimal digit. -/
def hexValue? (c : Char) : Option Nat :=
  let n := c.toNat
  if c.isDigit then some (n - 0x30)
  else if 0x61 ≤ n ∧ n ≤ 0x66 then some (n - 0x61 + 10)
  else if 0x41 ≤ n ∧ n ≤ 0x46 then some (n - 0x41 + 10)
  else none

/-- The value of four hexadecimal digits. -/
def hex4? (a b c d : Char) : Option Nat := do
  let a ← hexValue? a
  let b ← hexValue? b
  let c ← hexValue? c
  let d ← hexValue? d
  some (((a * 16 + b) * 16 + c) * 16 + d)

/-- The letter escapes. -/
def letterEscape? : Char → Option Char
  | '"' => some '"'
  | '\\' => some '\\'
  | '/' => some '/'
  | 'b' => some '\x08'
  | 'f' => some '\x0c'
  | 'n' => some '\n'
  | 'r' => some '\r'
  | 't' => some '\t'
  | _ => none

/-- A code unit as a character; a surrogate without its partner has
none and is replaced. -/
def unitChar (n : Nat) : Char :=
  if n.isValidChar then Char.ofNat n else '\ufffd'

/-- Whether a code unit is the first half of a surrogate pair. -/
def isHighHalf (n : Nat) : Bool := 0xd800 ≤ n && n ≤ 0xdbff

/-- Whether a code unit is the second half of a surrogate pair. -/
def isLowHalf (n : Nat) : Bool := 0xdc00 ≤ n && n ≤ 0xdfff

/-- The code point of a surrogate pair. -/
def joinHalves (high low : Nat) : Nat :=
  0x10000 + (high - 0xd800) * 0x400 + (low - 0xdc00)

/-- The second half of a pair, if an escape for one follows. A digit that
is none refuses the text at the letter of the escape. -/
def lowHalf? : List Char → Except Refusal (Option Nat)
  | '\\' :: 'u' :: a :: b :: c :: d :: _ :: rest =>
      match hex4? a b c d with
      | some n => .ok (if isLowHalf n then some n else none)
      | none =>
          .error (.problem .badCodePointEscape (rest.length + 6))
  | _ => .ok none

/-- Read a string after its opening quote; `opening` characters were left
at the quote. -/
def readString (opening : Nat) : List Char → List Char → Reading String
  | _, [] => .error (.problem .unterminatedString opening)
  | acc, '"' :: rest => .ok (String.ofList acc.reverse, rest)
  | _, ['\\'] => .error (.problem .unterminatedString opening)
  | acc, '\\' :: 'u' :: a :: b :: c :: d :: e :: rest =>
      match hex4? a b c d with
      | none =>
          .error (.problem .badCodePointEscape (rest.length + 6))
      | some n =>
          if isHighHalf n then
            match lowHalf? (e :: rest) with
            | .error r => .error r
            | .ok (some low) =>
                readString opening
                  (Char.ofNat (joinHalves n low) :: acc) (rest.drop 5)
            | .ok none =>
                readString opening (unitChar n :: acc) (e :: rest)
          else readString opening (unitChar n :: acc) (e :: rest)
  | acc, '\\' :: c :: rest =>
      if c = 'u' then refuse .badCodePointEscape (c :: rest)
      else match letterEscape? c with
        | some x => readString opening (x :: acc) rest
        | none => refuse .unknownEscape ('\\' :: c :: rest)
  | acc, c :: rest =>
      if c.toNat < 0x20 then refuse .controlCharacter (c :: rest)
      else readString opening (c :: acc) rest
termination_by _ cs => cs.length
decreasing_by
  all_goals simp only [List.length_cons, List.length_drop]
  all_goals omega

-- ============================================================= numbers

/-- The integer part of a number: a zero alone, or digits that do not
start with one. -/
def integerPart? : List Char → Option (List Char × List Char)
  | '0' :: rest => some (['0'], rest)
  | cs =>
      let ds := cs.takeWhile Char.isDigit
      if ds.isEmpty then none else some (ds, cs.drop ds.length)

/-- The digits behind a point, if there are any. -/
def fractionPart : List Char → List Char × List Char
  | '.' :: rest =>
      let ds := rest.takeWhile Char.isDigit
      if ds.isEmpty then ([], '.' :: rest)
      else (ds, rest.drop ds.length)
  | cs => ([], cs)

/-- A signed exponent behind the letter `e`, if there is one. -/
def exponentPart : List Char → Option Int × List Char
  | c :: rest =>
      if c = 'e' ∨ c = 'E' then
        let (neg, body) : Bool × List Char :=
          match rest with
          | '-' :: body => (true, body)
          | '+' :: body => (false, body)
          | body => (false, body)
        let ds := body.takeWhile Char.isDigit
        if ds.isEmpty then (none, c :: rest)
        else
          let n : Nat := ds.foldl (fun n d => 10 * n + (d.toNat - 0x30)) 0
          (some (if neg then -n else n), body.drop ds.length)
      else (none, c :: rest)
  | [] => (none, [])

/-- The most digits an integer may have: the host turns no longer row of
digits into an integer. -/
def maxIntegerDigits : Nat := 4300

/-- Read a number behind its sign: a double if it has a fraction or an
exponent, an integer otherwise. -/
def readUnsigned (neg : Bool) (cs : List Char) :
    Option (Except Refusal (Json × List Char)) := do
  let (ints, rest) ← integerPart? cs
  let (fracs, rest) := fractionPart rest
  let (exp?, rest) := exponentPart rest
  let digits : Nat :=
    (ints ++ fracs).foldl (fun n d => 10 * n + (d.toNat - 0x30)) 0
  if fracs.isEmpty ∧ exp?.isNone then
    if maxIntegerDigits < ints.length then
      some (.error (.tooManyDigits ints.length))
    else some (.ok (.int (if neg then -digits else digits), rest))
  else
    let exponent : Int := exp?.getD 0 - fracs.length
    some (.ok (.float (Binary64.ofDecimal neg digits exponent), rest))

/-- Read a number. -/
def readNumber (cs : List Char) : Reading Json :=
  let outcome := match cs with
    | '-' :: rest => readUnsigned true rest
    | _ => readUnsigned false cs
  outcome.getD (refuse .expectingValue cs)

-- ============================================================== values

/-- The words that are values. -/
def words : List (List Char × Json) :=
  [("null".toList, .null), ("true".toList, .bool true),
   ("false".toList, .bool false), ("NaN".toList, .float Binary64.nan),
   ("Infinity".toList, .float (Binary64.infinity false)),
   ("-Infinity".toList, .float (Binary64.infinity true))]

/-- Read a value that is one token other than a string. -/
def readScalar (cs : List Char) : Reading Json :=
  match words.find? fun w => w.1.isPrefixOf cs with
  | some (w, v) => .ok (v, cs.drop w.length)
  | none => readNumber cs

/-- How many arrays and objects may stand in one another. This is no
constant of the program: it is what the host's limit on nested calls
leaves below one usual stack of callers, those of a check that reads an
answer or a catalog, and other callers would move it by as many calls.
Proofs use of it only that such a limit is there, and that it lies above
the nesting up to which texts are written and below that of the body they
refuse. -/
def maxDepth : Nat := 985

mutual

/-- Read a value; `room` is how many containers it may open. -/
def readValue : (fuel room : Nat) → List Char →
    Except Refusal (Json × List Char)
  | 0, _, cs => refuse .expectingValue cs
  | _ + 1, _, [] => refuse .expectingValue []
  | fuel + 1, room, c :: rest =>
      if c = '"' then do
        let (s, rest) ← readString (rest.length + 1) [] rest
        .ok (.str s, rest)
      else if c = '[' then
        match room, skipGap rest with
        | 0, _ => .error (.tooDeep .array)
        | _ + 1, ']' :: rest => .ok (.arr [], rest)
        | room + 1, cs => readItems fuel room [] cs
      else if c = '\x7b' then
        match room, skipGap rest with
        | 0, _ => .error (.tooDeep .object)
        | _ + 1, '\x7d' :: rest => .ok (.obj [], rest)
        | room + 1, cs => readEntries fuel room [] cs
      else readScalar (c :: rest)

/-- Read the items of an array up to its end. -/
def readItems : (fuel room : Nat) → List Json → List Char →
    Except Refusal (Json × List Char)
  | 0, _, _, cs => refuse .expectingValue cs
  | fuel + 1, room, acc, cs => do
      let (v, rest) ← readValue fuel room cs
      match skipGap rest with
      | ']' :: rest => .ok (.arr (v :: acc).reverse, rest)
      | ',' :: rest => readItems fuel room (v :: acc) (skipGap rest)
      | cs => refuse .expectingComma cs

/-- Read the entries of an object up to its end. -/
def readEntries : (fuel room : Nat) → List (String × Json) → List Char →
    Except Refusal (Json × List Char)
  | 0, _, _, cs => refuse .expectingName cs
  | fuel + 1, room, acc, cs => do
      match cs with
      | '"' :: rest =>
          let (key, rest) ← readString (rest.length + 1) [] rest
          match skipGap rest with
          | ':' :: rest =>
              let (v, rest) ← readValue fuel room (skipGap rest)
              let acc := Table.putEntry key v acc
              match skipGap rest with
              | '\x7d' :: rest => .ok (.obj acc, rest)
              | ',' :: rest => readEntries fuel room acc (skipGap rest)
              | cs => refuse .expectingComma cs
          | cs => refuse .expectingColon cs
      | cs => refuse .expectingName cs

end

-- =============================================================== texts

/-- The line and column of a position, both counted from one. -/
def lineColumn (before : List Char) : Nat × Nat :=
  ((before.filter (· == '\n')).length + 1,
    (before.reverse.takeWhile (· != '\n')).length + 1)

/-- A refusal with its place in a text. -/
def Refusal.locate (text : List Char) : Refusal → ReadFault
  | .tooManyDigits count => .tooManyDigits count
  | .tooDeep container => .tooDeep container
  | .problem what left =>
      let position := text.length - left
      let (line, column) := lineColumn (text.take position)
      .malformed what line column position

/-- Read a text that holds one value and nothing else. -/
def readChars (cs : List Char) : Except Refusal Json :=
  match cs with
  | '\ufeff' :: _ => .error (.problem .byteOrderMark cs.length)
  | _ => do
      let (v, rest) ← readValue (2 * cs.length + 1) maxDepth (skipGap cs)
      match skipGap rest with
      | [] => .ok v
      | rest => .error (.problem .extraData rest.length)

/-- Read a text that holds one value and nothing else; a refusal tells
where. -/
def read (s : String) : Except ReadFault Json :=
  (readChars s.toList).mapError (Refusal.locate s.toList)

end SchemaAudit.Json
