/-
Labels of domain names, held as their code points. A label is checked as
a whole before it is written in ASCII or after it was read from it: its
form, its code points one by one, and its directions.
-/
import SchemaAudit.Domain.Direction
import SchemaAudit.Domain.Joining
import SchemaAudit.Domain.Permitted
import SchemaAudit.Domain.Punycode
import SchemaAudit.Text.Mark
import SchemaAudit.Text.Normal
import SchemaAudit.Text.Quoted

namespace SchemaAudit.Domain

/-- What is wrong with the form of a domain name or of a label of it. -/
inductive FormFault where
  | emptyDomain
  | longDomain
  | emptyLabel
  | longLabel
  | notNormal
  | innerHyphens
  | outerHyphen
  | initialMark
  | withoutContent
  | endingHyphen
  | notReadable
  deriving DecidableEq, Repr

/-- The wording of a fault of the form. -/
def FormFault.message : FormFault → String
  | .emptyDomain => "Empty domain"
  | .longDomain => "Domain too long"
  | .emptyLabel => "Empty Label"
  | .longLabel => "Label too long"
  | .notNormal => "Label must be in Normalization Form C"
  | .innerHyphens =>
      "Label has disallowed hyphens in 3rd and 4th position"
  | .outerHyphen => "Label must not start or end with a hyphen"
  | .initialMark => "Label begins with an illegal combining character"
  | .withoutContent =>
      "Malformed A-label, no Punycode eligible content found"
  | .endingHyphen => "A-label must not end with a hyphen"
  | .notReadable => "Invalid A-label"

/-- What is wrong with a domain name. Positions count from one. -/
inductive Fault where
  | form (fault : FormFault)
  | joiner (point position : Nat) (label : List Nat)
  | codePoint (point position : Nat) (label : List Nat)
  | company (point position : Nat) (label : List Nat)
  | direction (fault : DirectionFault) (label : List Nat)
  deriving DecidableEq, Repr

/-- A code point between quotes; half a surrogate pair is escaped. -/
def escapePoint (quote : Char) (n : Nat) : List Char :=
  if n.isValidChar then Text.escapeChar quote (Char.ofNat n)
  else Text.codePointEscape n

/-- A label in quotes. -/
def quotedLabel (label : List Nat) : String :=
  let q := Text.quoteFor (label.map Char.ofNat)
  String.ofList (q :: label.flatMap (escapePoint q) ++ [q])

/-- A code point as messages show it. -/
def pointText (n : Nat) : String :=
  "U+" ++ String.ofList ((Text.hex 4 n).map Char.toUpper)

/-- The wording of a fault of directions. -/
def DirectionFault.message (label : List Nat) : DirectionFault → String
  | .unknown position =>
      "Unknown directionality in label " ++ quotedLabel label
        ++ " at position " ++ toString position
  | .first =>
      "First codepoint in label " ++ quotedLabel label
        ++ " must be directionality L, R or AL"
  | .inRight position =>
      "Invalid direction for codepoint at position " ++ toString position
        ++ " in a right-to-left label"
  | .inLeft position =>
      "Invalid direction for codepoint at position " ++ toString position
        ++ " in a left-to-right label"
  | .numerals => "Can not mix numeral types in a right-to-left label"
  | .ending => "Label ends with illegal codepoint directionality"

/-- The wording of a fault. -/
def Fault.message : Fault → String
  | .form fault => fault.message
  | .joiner n position label =>
      "Unknown codepoint adjacent to joiner " ++ pointText n
        ++ " at position " ++ toString position ++ " in "
        ++ quotedLabel label
  | .codePoint n position label =>
      "Codepoint " ++ pointText n ++ " at position " ++ toString position
        ++ " of " ++ quotedLabel label ++ " not allowed"
  | .company n position label =>
      "Codepoint " ++ pointText n ++ " not allowed at position "
        ++ toString position ++ " in " ++ quotedLabel label
  | .direction fault label => fault.message label

namespace Label

-- ============================================================== company

/-- The combining class of the marks that strike out a vowel. -/
def strikeClass : Nat := 9

/-- Whether the code point in front strikes out a vowel. -/
def followsStrike (before : List Nat) : Bool :=
  (before.head?.map fun n => Text.combiningClass n == strikeClass).getD
    false

/-- Whether letters on both sides join across a place. -/
def isBetweenJoined (before behind : List Nat) : Bool :=
  ((before.dropWhile isTransparent).head?.map joinsBehind).getD false
    && ((behind.dropWhile isTransparent).head?.map joinsBefore).getD false

/-- Whether nothing is known of the code point in front. -/
def followsUnknown (before : List Nat) : Bool :=
  (before.head?.map fun n => Direction.of n == .unknown).getD false

/-- Whether a code point fits among those before it, in reverse, and
those behind it; `label` is all of them. -/
def fits (label before behind : List Nat) (n : Nat) : Bool :=
  if n = 0x200c then
    followsStrike before || isBetweenJoined before behind
  else if n = 0x200d then followsStrike before
  else if n = 0xb7 then
    before.head? == some 0x6c && behind.head? == some 0x6c
  else if n = 0x375 then (behind.head?.map isGreek).getD false
  else if n = 0x5f3 ∨ n = 0x5f4 then
    (before.head?.map isHebrew).getD false
  else if n = 0x30fb then
    label.any fun m => m != 0x30fb && isJapanese m
  else if n ≤ 0x669 then !label.any fun m => 0x6f0 ≤ m && m ≤ 0x6f9
  else !label.any fun m => 0x660 ≤ m && m ≤ 0x669

/-- Check a code point in its place. -/
def checkPoint (label before behind : List Nat) (n : Nat) :
    Except Fault Unit :=
  let position := before.length + 1
  if isPermitted n then .ok ()
  else if isJoiner n then
    if fits label before behind n && !followsUnknown before then .ok ()
    else .error (.joiner n position label)
  else if needsCompany n then
    if fits label before behind n then .ok ()
    else .error (.company n position label)
  else .error (.codePoint n position label)

/-- Check the code points of a label behind those before them. -/
def checkPoints (label before : List Nat) :
    List Nat → Except Fault Unit
  | [] => .ok ()
  | n :: behind => do
      checkPoint label before behind n
      checkPoints label (n :: before) behind

-- ================================================================= form

/-- The most characters of a label that is looked at. -/
def maxInput : Nat := 254

/-- The most characters of a label in ASCII. -/
def maxLength : Nat := 63

/-- Check the form of a label. -/
def checkForm (label : List Nat) : Except FormFault Unit :=
  if label.isEmpty then .error .emptyLabel
  else if maxInput < label.length then .error .longLabel
  else if !Text.isNormal label then .error .notNormal
  else if (label.drop 2).take 2 = [0x2d, 0x2d] then .error .innerHyphens
  else if label.head? = some 0x2d ∨ label.getLast? = some 0x2d then
    .error .outerHyphen
  else if (label.head?.map Text.isMark).getD false then
    .error .initialMark
  else .ok ()

/-- Check a label. -/
def check (label : List Nat) : Except Fault Unit := do
  (checkForm label).mapError .form
  checkPoints label [] label
  (Direction.check label).mapError fun fault => .direction fault label

-- =========================================================== two writings

/-- The mark in front of a label that was written in ASCII. -/
def asciiMark : List Char := "xn--".toList

/-- The code points that a label in ASCII stands for. -/
def decode (cs : List Char) : Except Fault (List Nat) :=
  let cs := cs.map Char.toLower
  if asciiMark.isPrefixOf cs then
    let content := cs.drop asciiMark.length
    if content.isEmpty then .error (.form .withoutContent)
    else if content.getLast? = some '-' then .error (.form .endingHyphen)
    else
      match Punycode.decode? content with
      | none => .error (.form .notReadable)
      | some label => do
          check label
          .ok label
  else do
    check (cs.map Char.toNat)
    .ok (cs.map Char.toNat)

/-- A label in ASCII; one that is so already stays as it is. -/
def encode (label : List Char) : Except Fault (List Char) := do
  let written ←
    if label.all fun c => c.toNat < 0x80 then do
      let _ ← decode label
      .ok label
    else do
      check (label.map Char.toNat)
      .ok (asciiMark ++ Punycode.encode (label.map Char.toNat))
  if maxLength < written.length then .error (.form .longLabel)
  else .ok written

end Label

end SchemaAudit.Domain
