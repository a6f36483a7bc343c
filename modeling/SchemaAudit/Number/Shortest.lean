/-
The shortest decimal that reads back as a given double. Around a finite
double lies the interval of reals that round to it, its ends included
when the mantissa is even. For one digit, two digits and so on, the two
neighbours of the value on that decimal grid are tried; the first grid
with a neighbour inside the interval wins, and of two neighbours inside
it the nearer.

A `DecimalLayout` then says how the digits are written: where positional
notation ends, how wide an exponent is, and what stands for infinity.
-/
import SchemaAudit.Number.Binary64

namespace SchemaAudit

/-- A decimal `digits * 10 ^ exponent` whose last digit is not zero,
unless it is zero itself. -/
structure Decimal where
  digits : Nat
  exponent : Int
  deriving DecidableEq, Inhabited

namespace Binary64

/-- The interval of reals that round to `m * 2 ^ q`, in quarters of
`2 ^ q`: low end, value, high end. Below a power of two the doubles lie
closer together. -/
def interval (m : Nat) (q : Int) : Nat × Nat × Nat :=
  let low := if m = Nat.pow 2 52 ∧ -1074 < q then 4 * m - 1 else 4 * m - 2
  (low, 4 * m, 4 * m + 2)

/-- A quarter count of `2 ^ q` over `10 ^ e`, as a fraction. -/
def onGrid (quarters : Nat) (q e : Int) : Nat × Nat :=
  (quarters * Nat.pow 2 (q - 2).toNat * Nat.pow 10 (-e).toNat,
    Nat.pow 2 (2 - q).toNat * Nat.pow 10 e.toNat)

/-- The grid point nearest to the value among its two neighbours that
lie in the interval. -/
def neighbour? (m : Nat) (q e : Int) : Option Nat :=
  let (low, mid, high) := interval m q
  let (ln, d) := onGrid low q e
  let (vn, _) := onGrid mid q e
  let (hn, _) := onGrid high q e
  let inside (k : Nat) : Bool :=
    if m % 2 = 0 then ln ≤ k * d && k * d ≤ hn
    else ln < k * d && k * d < hn
  let k := vn / d
  match inside k, inside (k + 1) with
  | true, true => some (roundHalfEven vn d)
  | true, false => some k
  | false, true => some (k + 1)
  | false, false => none

/-- The exponent of the leading decimal digit of `m * 2 ^ q`. -/
def leadingExponent (m : Nat) (q : Int) : Int :=
  let (num, den) := (m * Nat.pow 2 q.toNat, Nat.pow 2 (-q).toNat)
  if den ≤ num then ((Nat.toDigits 10 (num / den)).length : Int) - 1
  else -((Nat.toDigits 10 ((den - 1) / num)).length : Int)

/-- Try grids with more and more digits. -/
def search (m : Nat) (q top : Int) : (tries digits : Nat) → Decimal
  | 0, _ => ⟨0, 0⟩
  | tries + 1, digits =>
      let e := top - digits
      match neighbour? m q e with
      | some k => ⟨k, e⟩
      | none => search m q top tries (digits + 1)

/-- Move trailing zeros of the digits into the exponent. -/
def stripZeros : (tries : Nat) → Decimal → Decimal
  | 0, d => d
  | tries + 1, d =>
      if d.digits % 10 = 0 ∧ d.digits ≠ 0 then
        stripZeros tries ⟨d.digits / 10, d.exponent + 1⟩
      else d

/-- The decimal with the fewest digits that reads back as the magnitude
`m * 2 ^ q`, the nearest of those. Seventeen digits always suffice. -/
def shortestOf (m : Nat) (q : Int) : Decimal :=
  if m = 0 then ⟨0, 0⟩
  else stripZeros 18 (search m q (leadingExponent m q) 18 0)

/-- The decimal with the fewest digits that reads back as the magnitude
of a finite double. -/
def shortest? (x : Binary64) : Option Decimal :=
  x.magnitude?.map fun (m, q) => shortestOf m q

end Binary64

/-- How decimals are written. -/
structure DecimalLayout where
  /-- The least exponent of a leading digit written without `e`. -/
  positionalFrom : Int
  /-- The greatest exponent of a leading digit written without `e`. -/
  positionalTo : Int
  /-- The least number of digits of a written exponent. -/
  exponentDigits : Nat
  /-- What stands for an infinity, behind its sign. -/
  infinity : String
  /-- Whether an infinity shows its sign. -/
  signedInfinity : Bool
  /-- What stands for the number that is no number. -/
  nan : String

namespace DecimalLayout

/-- Zeros in front of a numeral up to a width. -/
def padZeros (width : Nat) (s : String) : String :=
  String.ofList (List.replicate (width - s.length) '0') ++ s

/-- The exponent part of a decimal, its sign always shown. -/
def exponentText (l : DecimalLayout) (e : Int) : String :=
  (if e < 0 then "e-" else "e+")
    ++ padZeros l.exponentDigits (toString e.natAbs)

/-- Digits with a point after the first `point` of them; a missing side
is filled with zeros. -/
def pointed (ds : List Char) (point : Int) : String :=
  if point ≤ 0 then
    "0." ++ String.ofList (List.replicate (-point).toNat '0' ++ ds)
  else
    let n := point.toNat
    if ds.length ≤ n then
      String.ofList (ds ++ List.replicate (n - ds.length) '0') ++ ".0"
    else String.ofList (ds.take n) ++ "." ++ String.ofList (ds.drop n)

/-- A decimal without its sign. -/
def unsigned (l : DecimalLayout) (d : Decimal) : String :=
  if d.digits = 0 then "0.0"
  else
    let ds := (toString d.digits).toList
    let lead := d.exponent + ds.length - 1
    if l.positionalFrom ≤ lead ∧ lead ≤ l.positionalTo then
      pointed ds (lead + 1)
    else
      let tail := ds.drop 1
      String.ofList (ds.take 1)
        ++ (if tail.isEmpty then "" else "." ++ String.ofList tail)
        ++ l.exponentText lead

/-- The text of a double: its sign, then its shortest decimal. -/
def render (l : DecimalLayout) (x : Binary64) : String :=
  let sign := if x.negative then "-" else ""
  match x.shortest? with
  | some d => sign ++ l.unsigned d
  | none =>
      if x.isNaN then l.nan
      else (if l.signedInfinity then sign else "") ++ l.infinity

end DecimalLayout

end SchemaAudit
