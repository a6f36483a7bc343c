/-
Double precision numbers, held by their bits. A finite number is a
signed product of a natural number and a power of two; every conversion
here is exact arithmetic on naturals followed by one rounding to the
nearest double, a tie going to the even neighbour.

`magnitude?` is the view all other modules use.
-/

namespace SchemaAudit

/-- A double precision number, given by its 64 bits. -/
structure Binary64 where
  bits : UInt64
  deriving DecidableEq, Inhabited

namespace Binary64

-- ================================================== reading the bits

/-- Whether the sign bit is set, also for zeros. -/
def negative (x : Binary64) : Bool := x.bits.toNat / Nat.pow 2 63 == 1

/-- The eleven exponent bits. -/
def exponentBits (x : Binary64) : Nat :=
  x.bits.toNat / Nat.pow 2 52 % Nat.pow 2 11

/-- The fifty-two fraction bits. -/
def fractionBits (x : Binary64) : Nat := x.bits.toNat % Nat.pow 2 52

/-- Whether the bits stand for no number at all. -/
def isNaN (x : Binary64) : Bool :=
  x.exponentBits == 2047 && x.fractionBits != 0

/-- Whether the bits stand for an infinity of either sign. -/
def isInfinite (x : Binary64) : Bool :=
  x.exponentBits == 2047 && x.fractionBits == 0

/-- The magnitude of a finite number as `m` and `q` with value
`m * 2 ^ q`. -/
def magnitude? (x : Binary64) : Option (Nat × Int) :=
  if x.exponentBits = 2047 then none
  else if x.exponentBits = 0 then some (x.fractionBits, -1074)
  else some (Nat.pow 2 52 + x.fractionBits, (x.exponentBits : Int) - 1075)

/-- The magnitude of a finite number as a fraction. -/
def ratio? (x : Binary64) : Option (Nat × Nat) :=
  x.magnitude?.map fun (m, q) =>
    (m * Nat.pow 2 q.toNat, Nat.pow 2 (-q).toNat)

/-- Whether the number is greater than zero. -/
def isPositive (x : Binary64) : Bool :=
  !x.isNaN && !x.negative && x.bits != 0

/-- The number as an integer, if it is a whole number. -/
def toInt? (x : Binary64) : Option Int :=
  x.ratio?.bind fun (num, den) =>
    if num % den = 0 then
      some (if x.negative then -(num / den : Nat) else (num / den : Nat))
    else none

/-- The integer part of a finite number, cut toward zero. -/
def truncate? (x : Binary64) : Option Int :=
  x.ratio?.map fun (num, den) =>
    if x.negative then -(num / den : Nat) else (num / den : Nat)

-- ===================================================== building numbers

/-- The quotient rounded to the nearest natural, a tie to the even
one. -/
def roundHalfEven (num den : Nat) : Nat :=
  let k := num / den
  let r := num % den
  if 2 * r < den then k
  else if den < 2 * r then k + 1
  else if k % 2 = 0 then k else k + 1

/-- Bits of a magnitude below the sign bit, with the sign put on top. -/
def ofMagnitudeBits (neg : Bool) (n : Nat) : Binary64 :=
  ⟨UInt64.ofNat ((if neg then Nat.pow 2 63 else 0) + n)⟩

/-- Infinity with a sign. -/
def infinity (neg : Bool) : Binary64 :=
  ofMagnitudeBits neg (2047 * Nat.pow 2 52)

/-- The number that is no number. -/
def nan : Binary64 := ofMagnitudeBits false (4095 * Nat.pow 2 51)

/-- Zero with a sign. -/
def zero (neg : Bool) : Binary64 := ofMagnitudeBits neg 0

/-- The double nearest to a fraction; infinity beyond the largest. The
mantissa has 53 bits unless the exponent is the least one, and a
mantissa that rounds up to a power of two carries into the exponent
bits. -/
def ofRatio (neg : Bool) (num den : Nat) : Binary64 :=
  if num = 0 then zero neg
  else
    let guess : Int := (num.log2 : Int) - den.log2 - 52
    let scaled (q : Int) : Nat × Nat :=
      (num * Nat.pow 2 (-q).toNat, den * Nat.pow 2 q.toNat)
    let below := (scaled guess).1 < Nat.pow 2 52 * (scaled guess).2
    let q := max (if below then guess - 1 else guess) (-1074)
    let m := roundHalfEven (scaled q).1 (scaled q).2
    let n := if m < Nat.pow 2 52 then m
      else (q + 1075).toNat * Nat.pow 2 52 + (m - Nat.pow 2 52)
    if 2047 * Nat.pow 2 52 ≤ n then infinity neg else ofMagnitudeBits neg n

/-- The double nearest to an integer, if it is not beyond the largest
one. -/
def ofInt? (n : Int) : Option Binary64 :=
  let x := ofRatio (n < 0) n.natAbs 1
  if x.isInfinite then none else some x

/-- The double nearest to `digits * 10 ^ exponent`. Exponents far outside
the range are decided by the count of digits alone. -/
def ofDecimal (neg : Bool) (digits : Nat) (exponent : Int) : Binary64 :=
  if digits = 0 then zero neg
  else
    let top : Int := (Nat.toDigits 10 digits).length + exponent
    if 310 < top then infinity neg
    else if top < -330 then zero neg
    else ofRatio neg (digits * Nat.pow 10 exponent.toNat)
      (Nat.pow 10 (-exponent).toNat)

-- ========================================================== comparison

/-- A finite number as a signed numerator over a denominator. -/
def signedRatio? (x : Binary64) : Option (Int × Nat) :=
  x.ratio?.map fun (num, den) => (if x.negative then -num else num, den)

/-- Whether the first number is less than the second. -/
def lt (x y : Binary64) : Bool :=
  if x.isNaN || y.isNaN then false
  else match x.signedRatio?, y.signedRatio? with
    | some (a, b), some (c, d) => a * d < c * b
    | some _, none => !y.negative
    | none, some _ => x.negative
    | none, none => x.negative && !y.negative

/-- Whether two numbers have one value: zeros of both signs agree, and
what is no number agrees with nothing. -/
def same (x y : Binary64) : Bool :=
  !x.isNaN && !y.isNaN && !x.lt y && !y.lt x

/-- Whether the number equals an integer. -/
def equalsInt (x : Binary64) (n : Int) : Bool := x.toInt? == some n

end Binary64

end SchemaAudit
