/-
Decimal numerals for doubles: a sign, digits with a point among them, an
exponent, or a word for infinity or for the number that is no number. Two
readers stand on one grammar: they differ in what they take as blank and
in where they allow underscores.
-/
import SchemaAudit.Number.Shortest
import SchemaAudit.Text.Letter
import SchemaAudit.Text.Numeral

namespace SchemaAudit.Number

/-- The value of a word for a number without digits. -/
def wordValue? (neg : Bool) (cs : List Char) : Option Binary64 :=
  let word := String.ofList (cs.map Char.toLower)
  if word = "inf" ∨ word = "infinity" then some (Binary64.infinity neg)
  else if word = "nan" then some Binary64.nan
  else none

/-- The exponent behind the digits: none at all, or the letter `e` with a
signed row of digits. -/
def exponent? : List Char → Option Int
  | [] => some 0
  | c :: rest =>
      if c = 'e' ∨ c = 'E' then
        let (neg, ds) := Text.splitSign rest
        if ds.isEmpty || !ds.all Char.isDigit then none
        else
          let n : Nat := Text.digitsValue ds
          some (if neg then -n else n)
      else none

/-- The value of digits with a point among them and an exponent. -/
def digitsValue? (neg : Bool) (cs : List Char) : Option Binary64 := do
  let ints := cs.takeWhile Char.isDigit
  let rest := cs.drop ints.length
  let (fracs, rest) : List Char × List Char :=
    match rest with
    | '.' :: tail =>
        let fracs := tail.takeWhile Char.isDigit
        (fracs, tail.drop fracs.length)
    | _ => ([], rest)
  if ints.isEmpty && fracs.isEmpty then none
  else
    let e ← exponent? rest
    some (Binary64.ofDecimal neg (Text.digitsValue (ints ++ fracs))
      (e - fracs.length))

/-- The double that a numeral without blanks and underscores stands
for. -/
def readPlain? (cs : List Char) : Option Binary64 :=
  let (neg, body) := Text.splitSign cs
  match wordValue? neg body with
  | some x => some x
  | none => digitsValue? neg body

/-- A text without its underscores, if none of them stands at an end or
beside another. -/
def dropLooseUnderscores? (cs : List Char) : Option (List Char) :=
  let loose := cs.head? == some '_' || cs.getLast? == some '_'
    || (cs.zip (cs.drop 1)).any fun p => p.1 == '_' && p.2 == '_'
  if loose || !cs.contains '_' then none
  else some (cs.filter (· != '_'))

/-- Whether every underscore stands between two digits; `before` is the
character in front. -/
def underscoresFit (before : Char) : List Char → Bool
  | [] => before != '_'
  | '_' :: rest => before.isDigit && underscoresFit '_' rest
  | c :: rest => (before != '_' || c.isDigit) && underscoresFit c rest

/-- The double of a setting's text: white space around it, or underscores
loosely inside, but not both. -/
def readSetting? (s : String) : Option Binary64 :=
  match readPlain? (Text.trimBoth Text.isWhiteSpace s.toList) with
  | some x => some x
  | none => (dropLooseUnderscores? s.toList).bind readPlain?

/-- The double of an argument's text: blanks around it, digits of any
script, underscores between digits. -/
def readArgument? (s : String) : Option Binary64 :=
  let cs := Text.trimBoth Text.isNumeralBlank (s.toList.map Text.numeralChar)
  if underscoresFit ' ' cs then readPlain? (cs.filter (· != '_'))
  else none

end SchemaAudit.Number
