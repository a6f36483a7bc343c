/-
Doubles written with a fixed number of places, and with a fixed number of
digits behind a leading one. The value is exact, so one rounding decides
every digit; a tie goes to the even neighbour.
-/
import SchemaAudit.Number.Shortest

namespace SchemaAudit.Binary64

/-- A natural number of units `1 / 10 ^ places`, with its point. -/
def placesText (places n : Nat) : String :=
  let ds := DecimalLayout.padZeros (places + 1) (toString n)
  let cut := ds.length - places
  if places = 0 then ds
  else (ds.take cut).toString ++ "." ++ (ds.drop cut).toString

/-- The magnitude of a finite double with a fixed number of places. -/
def fixedText (places : Nat) (ratio : Nat × Nat) : String :=
  placesText places (roundHalfEven (ratio.1 * Nat.pow 10 places) ratio.2)

/-- The magnitude of a finite double as a number of `digits + 1` digits
and the exponent of its first one. -/
def scientificParts (digits : Nat) (m : Nat) (q : Int) : Nat × Int :=
  if m = 0 then (0, 0)
  else
    let lead := leadingExponent m q
    let e := lead - digits
    let num := m * Nat.pow 2 q.toNat * Nat.pow 10 (-e).toNat
    let den := Nat.pow 2 (-q).toNat * Nat.pow 10 e.toNat
    let n := roundHalfEven num den
    if n < Nat.pow 10 (digits + 1) then (n, lead) else (n / 10, lead + 1)

end SchemaAudit.Binary64
