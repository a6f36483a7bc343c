/-
Integer numerals: blanks around, a sign, decimal digits of any script
with single underscores between them. A numeral of more than 4300 digits
is refused, leading zeros counted and underscores not.

Blank around a numeral are the six usual ASCII characters and every
blank outside ASCII; the information separators are not.
-/
import SchemaAudit.Text.Blank
import SchemaAudit.Text.Digit
import SchemaAudit.Text.Quoted

namespace SchemaAudit.Text

/-- The most digits a numeral may have. -/
def maxNumeralDigits : Nat := 4300

/-- A character of a numeral in its ASCII form: outside ASCII a blank is a
space, a digit of any script a digit, and anything else a question mark,
which no numeral holds. -/
def numeralChar (c : Char) : Char :=
  if c.toNat < 127 then c
  else if isBlank c then ' '
  else match digitValue? c with
    | some d => Char.ofNat (0x30 + d)
    | none => '?'

/-- The six ASCII blanks around a numeral. -/
def isNumeralBlank (c : Char) : Bool :=
  c.toNat == 0x20 || (9 ≤ c.toNat && c.toNat ≤ 13)

/-- The digits of a numeral without its underscores, if every underscore
stands between two digits. -/
def numeralDigits? : List Char → Option (List Char)
  | [] => none
  | [c] => if c.isDigit then some [c] else none
  | c :: '_' :: rest =>
      if c.isDigit then (numeralDigits? rest).map (c :: ·) else none
  | c :: rest =>
      if c.isDigit then (numeralDigits? rest).map (c :: ·) else none

/-- The value of a row of ASCII digits. -/
def digitsValue (ds : List Char) : Nat :=
  ds.foldl (fun n c => 10 * n + (c.toNat - 0x30)) 0

/-- A sign and what follows it. -/
def splitSign : List Char → Bool × List Char
  | '-' :: rest => (true, rest)
  | '+' :: rest => (false, rest)
  | cs => (false, cs)

/-- Why a text is no numeral. -/
inductive NumeralFault where
  | notInteger (text : String)
  | tooManyDigits (count : Nat)
  deriving DecidableEq

/-- The wording of a refusal; of a long text only a part is shown. -/
def NumeralFault.message : NumeralFault → String
  | .notInteger text =>
      "invalid literal for int() with base 10: "
        ++ String.ofList ((quoted text).toList.take 200)
  | .tooManyDigits count =>
      "Exceeds the limit (4300 digits) for integer string conversion: "
        ++ "value has " ++ toString count
        ++ " digits; use sys.set_int_max_str_digits() to increase the limit"

/-- Whether a character may stand inside the digits of a numeral. -/
def isNumeralBody (c : Char) : Bool := c.isDigit || c == '_'

/-- The integer a numeral stands for. The digits in front are counted
before anything behind them is looked at. -/
def readInt (s : String) : Except NumeralFault Int :=
  let cs := (s.toList.map numeralChar).dropWhile isNumeralBlank
  let (neg, cs) := splitSign cs
  match numeralDigits? (cs.takeWhile isNumeralBody) with
  | none => .error (.notInteger s)
  | some ds =>
      if maxNumeralDigits < ds.length then
        .error (.tooManyDigits ds.length)
      else if (cs.dropWhile isNumeralBody).all isNumeralBlank then
        let n : Nat := digitsValue ds
        .ok (if neg then -n else n)
      else .error (.notInteger s)

end SchemaAudit.Text
