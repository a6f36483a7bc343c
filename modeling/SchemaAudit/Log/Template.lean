/-
Message templates. A percent sign starts a place for an argument: flags,
a width, a precision and the letter of a conversion. Arguments are taken
one after the other, or by their keys if they are an object.

A character given by its code point may be half a surrogate pair. No text
can hold it, so `Filled` says where the first of them stands.
-/
import SchemaAudit.Log.Value
import SchemaAudit.Number.Placed

namespace SchemaAudit

/-- Why a template does not fit its arguments. -/
inductive TemplateFault where
  | incomplete
  | incompleteKey
  | objectExpected
  | positionExpected (word : String)
  | absentKey (key : String)
  | tooFew
  | tooMany
  | starNotInteger
  | tooWide
  | tooPrecise
  | starTooWide
  | starTooPrecise
  | tooManyDigits
  | tooLong
  | unknownConversion (c : Char) (position : Nat)
  | realExpected (c : Char) (found : String)
  | integerExpected (c : Char) (found : String)
  | numberExpected (found : String)
  | integerTooLarge
  | infinite
  | notANumber
  | charExpected
  | charRange
  deriving DecidableEq

namespace TemplateFault

/-- The wording of a fault. -/
def message : TemplateFault → String
  | .incomplete => "incomplete format"
  | .incompleteKey => "incomplete format key"
  | .objectExpected => "format requires a mapping"
  | .positionExpected word =>
      word ++ " indices must be integers or slices, not str"
  | .absentKey key => Text.quoted key
  | .tooFew => "not enough arguments for format string"
  | .tooMany => "not all arguments converted during string formatting"
  | .starNotInteger => "* wants int"
  | .tooWide => "width too big"
  | .tooPrecise => "precision too big"
  | .starTooWide => "Python int too large to convert to C ssize_t"
  | .starTooPrecise => "Python int too large to convert to C int"
  | .tooManyDigits => "precision too large"
  | .tooLong => ""
  | .unknownConversion c position =>
      "unsupported format character '"
        ++ (if 31 ≤ c.toNat ∧ c.toNat ≤ 126 then c.toString else "?")
        ++ "' (0x" ++ String.ofList (Text.hex 1 c.toNat) ++ ") at index "
        ++ toString position
  | .realExpected c found =>
      "%" ++ c.toString ++ " format: a real number is required, not "
        ++ found
  | .integerExpected c found =>
      "%" ++ c.toString ++ " format: an integer is required, not "
        ++ found
  | .numberExpected found => "must be real number, not " ++ found
  | .integerTooLarge => "int too large to convert to float"
  | .infinite => "cannot convert float infinity to integer"
  | .notANumber => "cannot convert float NaN to integer"
  | .charExpected => "%c requires int or char"
  | .charRange => "%c arg not in range(0x110000)"

end TemplateFault

namespace Template

-- =========================================================== arguments

/-- What a key of a place is looked up in. A list and bytes are looked up
by positions only, which no key is. -/
inductive KeySource where
  | nothing
  | entries (es : List (String × LogValue))
  | positions (word : String)

/-- The arguments that are left to be taken in order, and what keys are
looked up in. -/
structure Arguments where
  left : List LogValue
  keys : KeySource

/-- The entries of a value that is an object. -/
def entriesOf? : LogValue → Option (List (String × LogValue))
  | .object es => some es
  | .plain (.obj es) => some (es.map fun e => (e.1, .plain e.2))
  | _ => none

/-- What keys are looked up in if a value is the only argument. -/
def KeySource.ofValue (v : LogValue) : KeySource :=
  match entriesOf? v with
  | some es => .entries es
  | none =>
      match v with
      | .list _ | .plain (.arr _) => .positions "list"
      | .bytes _ => .positions "byte"
      | _ => .nothing

/-- The arguments that a value stands for: the items of a tuple, and any
other value itself. -/
def Arguments.ofValue : LogValue → Arguments
  | .tuple items => ⟨items, .nothing⟩
  | v => ⟨[v], .ofValue v⟩

/-- The value that stands for arguments: a single object that is not
empty stands for itself, and all others are a tuple. -/
def gather : List LogValue → LogValue
  | [v] => if (entriesOf? v).isSome && v.isTruthy then v else .tuple [v]
  | vs => .tuple vs

/-- The next argument. -/
def Arguments.take (args : Arguments) :
    Except TemplateFault (LogValue × Arguments) :=
  match args.left with
  | v :: rest => .ok (v, { args with left := rest })
  | [] => .error .tooFew

/-- The arguments for a place with a key: the value of the key alone. -/
def Arguments.select (key : String) (args : Arguments) :
    Except TemplateFault Arguments :=
  match args.keys with
  | .nothing => .error .objectExpected
  | .positions word => .error (.positionExpected word)
  | .entries es =>
      match es.find? fun e => e.1 == key with
      | some (_, v) => .ok { args with left := [v] }
      | none => .error (.absentKey key)

/-- Whether arguments are left over at the end; what keys are looked up
in is never left over. -/
def Arguments.isLeftOver (args : Arguments) : Bool :=
  match args.keys with
  | .nothing => !args.left.isEmpty
  | _ => false

-- =============================================================== output

/-- Text that was put together, and how many characters stand before its
first half of a surrogate pair, if it has one. -/
structure Filled where
  chars : List Char
  half? : Option Nat

/-- Text of whole characters. -/
def Filled.ofString (s : String) : Filled := ⟨s.toList, none⟩

/-- One text behind another. -/
def Filled.append (a b : Filled) : Filled :=
  ⟨a.chars ++ b.chars, a.half?.or (b.half?.map (· + a.chars.length))⟩

/-- The text with half a surrogate pair replaced. -/
def Filled.text (f : Filled) : String := String.ofList f.chars

-- ============================================================== places

/-- The flags of a place. -/
structure Flags where
  left : Bool
  plus : Bool
  blank : Bool
  alternate : Bool
  zero : Bool

/-- What a place asks for beside its conversion. -/
structure Place where
  flags : Flags
  width : Nat
  precision : Option Nat

/-- Raise a flag. -/
def Flags.raise? (f : Flags) : Char → Option Flags
  | '-' => some { f with left := true }
  | '+' => some { f with plus := true }
  | ' ' => some { f with blank := true }
  | '#' => some { f with alternate := true }
  | '0' => some { f with zero := true }
  | _ => none

/-- Read the flags in front. -/
def readFlags (f : Flags) : List Char → Flags × List Char
  | [] => (f, [])
  | c :: rest =>
      match f.raise? c with
      | some f => readFlags f rest
      | none => (f, c :: rest)

/-- Read a key up to the parenthesis that closes it; `depth` others are
open inside it. -/
def readKey? (depth : Nat) (key : List Char) :
    List Char → Option (String × List Char)
  | [] => none
  | ')' :: rest =>
      match depth with
      | 0 => some (String.ofList key.reverse, rest)
      | depth + 1 => readKey? depth (')' :: key) rest
  | '(' :: rest => readKey? (depth + 1) ('(' :: key) rest
  | c :: rest => readKey? depth (c :: key) rest

/-- The value of a number and what follows it. -/
def readNumber (cs : List Char) : Nat × List Char :=
  let ds := cs.takeWhile Char.isDigit
  (ds.foldl (fun n c => 10 * n + (c.toNat - 48)) 0, cs.drop ds.length)

/-- The greatest width. -/
def maxWidth : Nat := Nat.pow 2 63 - 1

/-- The greatest precision. -/
def maxPrecision : Nat := Nat.pow 2 31 - 1

/-- The greatest precision of an integer. -/
def maxDigits : Nat := maxPrecision - 3

/-- The greatest width for which there is room. -/
def roomWidth : Nat := Nat.pow 2 36

/-- The integer that an argument gives for a star. -/
def starValue (args : Arguments) :
    Except TemplateFault (Int × Arguments) := do
  let (v, args) ← args.take
  match v with
  | .plain (.int n) => .ok (n, args)
  | .plain (.bool b) => .ok (b.toInt, args)
  | _ => .error .starNotInteger

/-- Read a width. A negative one from an argument turns the place to the
left. -/
def readWidth (f : Flags) (args : Arguments) (cs : List Char) :
    Except TemplateFault (Flags × Nat × Arguments × List Char) :=
  match cs with
  | '*' :: rest => do
      let (n, args) ← starValue args
      if n < -(maxWidth + 1) ∨ maxWidth < n then .error .starTooWide
      else .ok ({ f with left := f.left || n < 0 }, n.natAbs, args, rest)
  | _ =>
      let (n, rest) := readNumber cs
      if maxWidth < n then .error .tooWide else .ok (f, n, args, rest)

/-- Read a precision, if there is a point. A negative one from an
argument counts as none behind the point. -/
def readPrecision (args : Arguments) (cs : List Char) :
    Except TemplateFault (Option Nat × Arguments × List Char) :=
  match cs with
  | '.' :: '*' :: rest => do
      let (n, args) ← starValue args
      if n < -(maxPrecision + 1) ∨ maxPrecision < n then
        .error .starTooPrecise
      else .ok (some n.toNat, args, rest)
  | '.' :: rest =>
      let (n, rest) := readNumber rest
      if maxPrecision < n then .error .tooPrecise
      else .ok (some n, args, rest)
  | _ => .ok (none, args, cs)

/-- What is left behind a length letter, which says nothing here. -/
def skipLength : List Char → List Char
  | 'h' :: rest => rest
  | 'l' :: rest => rest
  | 'L' :: rest => rest
  | cs => cs

-- ========================================================= conversions

/-- A text filled up to the width of a place. -/
def Place.fill (p : Place) (s : String) : Filled :=
  let pad := List.replicate (p.width - s.length) ' '
  ⟨if p.flags.left then s.toList ++ pad else pad ++ s.toList, none⟩

/-- The sign and the digits of a number as its place shows them: a sign,
what marks the base, and digits with zeros in front if asked for. -/
def Place.number (p : Place) (negative : Bool) (mark digits : String) :
    Filled :=
  let sign := if negative then "-"
    else if p.flags.plus then "+"
    else if p.flags.blank then " " else ""
  let zeros :=
    if p.flags.zero && !p.flags.left then
      p.width - (sign.length + mark.length + digits.length)
    else 0
  p.fill (sign ++ mark ++ String.ofList (List.replicate zeros '0')
    ++ digits)

/-- A text cut to the precision of a place. -/
def Place.cut (p : Place) (s : String) : String :=
  match p.precision with
  | some n => String.ofList (s.toList.take n)
  | none => s

/-- A literal with all but ASCII escaped. -/
def asciiLiteral (v : LogValue) : String :=
  String.ofList (v.literal.toList.flatMap fun c =>
    if c.toNat < 0x80 then [c] else Text.codePointEscape c.toNat)

/-- The integer that a number counts as. -/
def wholeNumber (c : Char) : LogValue → Except TemplateFault Int
  | .plain (.int n) => .ok n
  | .plain (.bool b) => .ok b.toInt
  | .plain (.float x) =>
      match x.truncate? with
      | some n => .ok n
      | none => .error (if x.isNaN then .notANumber else .infinite)
  | v => .error (.realExpected c v.kindWord)

/-- The integer that a value is. -/
def properInteger (c : Char) : LogValue → Except TemplateFault Int
  | .plain (.int n) => .ok n
  | .plain (.bool b) => .ok b.toInt
  | v => .error (.integerExpected c v.kindWord)

/-- The double that a number counts as. -/
def realNumber : LogValue → Except TemplateFault Binary64
  | .plain (.float x) => .ok x
  | .plain (.int n) =>
      match Binary64.ofInt? n with
      | some x => .ok x
      | none => .error .integerTooLarge
  | .plain (.bool b) => .ok (Binary64.ofRatio false b.toNat 1)
  | v => .error (.numberExpected v.kindWord)

/-- A text in upper case. -/
def capitals (s : String) : String := s.map Char.toUpper

/-- An integer in a base, with as many digits as the precision asks, and
in upper case if asked for. -/
def Place.integer (p : Place) (base : Nat) (mark : String) (upper : Bool)
    (n : Int) : Except TemplateFault Filled :=
  if maxDigits < p.precision.getD 0 then .error .tooManyDigits
  else
    let digits := DecimalLayout.padZeros (p.precision.getD 0)
      (String.ofList (Nat.toDigits base n.natAbs))
    let mark := if p.flags.alternate then mark else ""
    .ok (if upper then p.number (n < 0) (capitals mark) (capitals digits)
      else p.number (n < 0) mark digits)

/-- A double in a notation, in upper case if asked for. -/
def Place.double (p : Place) (form : Binary64.Layout) (upper : Bool)
    (x : Binary64) : Filled :=
  let s := x.placedText form (p.precision.getD 6) p.flags.alternate
  let s := if upper then capitals s else s
  match s.toList with
  | '-' :: digits => p.number true "" (String.ofList digits)
  | _ => p.number false "" s

/-- Whether a code point is half a surrogate pair. -/
def isHalf (n : Nat) : Bool := 0xd800 ≤ n && n ≤ 0xdfff

/-- The place of half a surrogate pair that is filled up to a width. -/
def Place.half (p : Place) : Filled :=
  let filled := p.fill "\ufffd"
  { filled with half? := some (if p.flags.left then 0 else p.width - 1) }

/-- A character, given as one or by its code point. -/
def Place.character (p : Place) : LogValue → Except TemplateFault Filled
  | .plain (.int n) =>
      if n < 0 ∨ 0x110000 ≤ n then .error .charRange
      else if isHalf n.toNat then .ok p.half
      else .ok (p.fill (Char.ofNat n.toNat).toString)
  | .plain (.bool b) => .ok (p.fill (Char.ofNat b.toNat).toString)
  | .plain (.str s) =>
      if s.length = 1 then .ok (p.fill s) else .error .charExpected
  | _ => .error .charExpected

/-- The text of a value at a place. -/
def Place.write (p : Place) (c : Char) (position : Nat) (v : LogValue) :
    Except TemplateFault Filled :=
  match c with
  | 's' => .ok (p.fill (p.cut v.shown))
  | 'r' => .ok (p.fill (p.cut v.literal))
  | 'a' => .ok (p.fill (p.cut (asciiLiteral v)))
  | 'd' | 'i' | 'u' => do p.integer 10 "" false (← wholeNumber c v)
  | 'o' => do p.integer 8 "0o" false (← properInteger c v)
  | 'x' => do p.integer 16 "0x" false (← properInteger c v)
  | 'X' => do p.integer 16 "0x" true (← properInteger c v)
  | 'e' => (realNumber v).map (p.double .exponent false)
  | 'E' => (realNumber v).map (p.double .exponent true)
  | 'f' => (realNumber v).map (p.double .places false)
  | 'F' => (realNumber v).map (p.double .places true)
  | 'g' => (realNumber v).map (p.double .shorter false)
  | 'G' => (realNumber v).map (p.double .shorter true)
  | 'c' => p.character v
  | _ => .error (.unknownConversion c position)

/-- The text of a value at a place, if there is room for its width. -/
def Place.convert (p : Place) (c : Char) (position : Nat) (v : LogValue) :
    Except TemplateFault Filled :=
  if p.width ≤ roomWidth then p.write c position v
  else
    match { p with width := 0 }.write c position v with
    | .ok _ => .error .tooLong
    | .error fault => .error fault

-- =========================================================== templates

/-- The arguments for a place that starts with a key in parentheses, if
it does, and what follows. -/
def selectKey (args : Arguments) (cs : List Char) :
    Except TemplateFault (Arguments × List Char) :=
  match cs, args.keys with
  | '(' :: _, .nothing => .error .objectExpected
  | '(' :: rest, _ =>
      match readKey? 0 [] rest with
      | none => .error .incompleteKey
      | some (key, rest) => (args.select key).map fun args => (args, rest)
  | _, _ => .ok (args, cs)

/-- Fill the place behind a percent sign: its text, the arguments that
are left, and what follows. `length` is that of the whole template. A
second percent sign stands for itself. -/
def fillPlace (length : Nat) (args : Arguments) :
    List Char → Except TemplateFault (Filled × Arguments × List Char)
  | '%' :: rest => .ok (.ofString "%", args, rest)
  | cs => do
      let (args, cs) ← selectKey args cs
      let (flags, cs) := readFlags ⟨false, false, false, false, false⟩ cs
      let (flags, width, args, cs) ← readWidth flags args cs
      let (precision, args, cs) ← readPrecision args cs
      match skipLength cs with
      | [] => .error .incomplete
      | c :: rest => do
          let (v, args) ← args.take
          let place : Place := ⟨flags, width, precision⟩
          let s ← place.convert c (length - rest.length - 1) v
          .ok (s, args, rest)

/-- Fill the places of a template, at most as many as told. -/
def fillAll (length : Nat) : (most : Nat) → Arguments → List Char →
    Except TemplateFault Filled
  | _, args, [] =>
      if args.isLeftOver then .error .tooMany else .ok (.ofString "")
  | 0, _, _ => .ok (.ofString "")
  | most + 1, args, '%' :: rest => do
      let (s, args, rest) ← fillPlace length args rest
      let tail ← fillAll length most args rest
      .ok (s.append tail)
  | most + 1, args, c :: rest => do
      let tail ← fillAll length most args rest
      .ok (Filled.append ⟨[c], none⟩ tail)

/-- Fill a template with the arguments that a value stands for. Without
arguments it stands for itself. -/
def fill (template : String) (args : LogValue) :
    Except TemplateFault Filled :=
  if args.isTruthy then
    let cs := template.toList
    fillAll cs.length cs.length (.ofValue args) cs
  else .ok (.ofString template)

end Template

end SchemaAudit
