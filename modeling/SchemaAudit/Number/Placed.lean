/-
Doubles in the three notations of message templates: with places behind
the point, with an exponent, and the shorter of the two for a number of
significant digits.
-/
import SchemaAudit.Number.Fixed

namespace SchemaAudit.Binary64

/-- The notations of a double. -/
inductive Layout where
  | places
  | exponent
  | shorter
  deriving DecidableEq, Repr

/-- A point behind the digits of a text that has none. -/
def withPoint (s : String) : String := if s.contains '.' then s else s ++ "."

/-- Digits with a point behind the first one. -/
def digitsText (digits : Nat) (n : Nat) : String :=
  placesText digits n

/-- An exponent with its sign and at least two digits. -/
def exponentMark (e : Int) : String :=
  (if e < 0 then "e-" else "e+")
    ++ DecimalLayout.padZeros 2 (toString e.natAbs)

/-- A text of digits with a point, without the zeros at its end and
without a point that is last then. -/
def dropZeroPlaces (s : String) : String :=
  if s.contains '.' then
    let cs := s.toList.reverse.dropWhile (· == '0')
    String.ofList (match cs with
      | '.' :: rest => rest.reverse
      | _ => cs.reverse)
  else s

/-- A magnitude with an exponent. -/
def exponentText (digits : Nat) (alternate : Bool) (m : Nat) (q : Int) :
    String :=
  let (n, e) := scientificParts digits m q
  let body := digitsText digits n
  (if alternate then withPoint body else body) ++ exponentMark e

/-- A magnitude with places behind the point. -/
def pointText (places : Nat) (alternate : Bool) (m : Nat) (q : Int) :
    String :=
  let body := fixedText places
    (m * Nat.pow 2 q.toNat, Nat.pow 2 (-q).toNat)
  if alternate then withPoint body else body

/-- A magnitude with a number of significant digits: with an exponent if
that of the first digit is less than -4 or not less than the number of
digits. Zeros at the end are dropped unless the alternate form is
asked for. -/
def shorterText (digits : Nat) (alternate : Bool) (m : Nat) (q : Int) :
    String :=
  let digits := max digits 1
  let (n, e) := scientificParts (digits - 1) m q
  if e < -4 ∨ digits ≤ e then
    let body := digitsText (digits - 1) n
    (if alternate then withPoint body else dropZeroPlaces body)
      ++ exponentMark e
  else
    let body := pointText (digits - 1 - e).toNat alternate m q
    if alternate then body else dropZeroPlaces body

/-- A double in a notation, with a minus sign if it is negative. -/
def placedText (form : Layout) (precision : Nat) (alternate : Bool)
    (x : Binary64) : String :=
  match x.magnitude? with
  | none =>
      if x.isNaN then "nan" else if x.negative then "-inf" else "inf"
  | some (m, q) =>
      (if x.negative then "-" else "")
        ++ match form with
          | .places => pointText precision alternate m q
          | .exponent => exponentText precision alternate m q
          | .shorter => shorterText precision alternate m q

end SchemaAudit.Binary64
