/-
Integers as doubles. The nearest double of an integer is an infinity
exactly from half a unit beyond the largest double on
(`ofInt?_eq_none`): below that the mantissa, rounded, still fits into 53
bits or carries into an exponent that is there. The one case that turns
on the tie is the mantissa of 53 ones, which is odd, so that the middle
between it and the next power of two goes up.

# The steps

An integer is scaled so that 53 bits are left of it (`scaled_bounds`),
rounded to a mantissa (`mantissaAt`), and put together with its exponent
as magnitude bits (`bitsAt`). Magnitude bits grow with the number they
stand for, also where a mantissa carries into the exponent, and those of
the infinity stand right above those of the largest double. So the
question is which integers are rounded to the bits of the infinity or
above (`infinityBits_le_bitsAt`), and it comes down to one comparison of
a quotient with an odd number (`lt_roundHalfEven`).
-/
import Mathlib.Algebra.Order.Ring.Nat
import Mathlib.Data.Nat.Log
import Mathlib.Tactic.Ring
import SchemaAudit.Number.Binary64

namespace SchemaAudit.Binary64

-- ============================================================= rounding

/-- A quotient is rounded down or up, and no further. -/
theorem roundHalfEven_cases (num den : Nat) :
    roundHalfEven num den = num / den
      ∨ roundHalfEven num den = num / den + 1 := by
  unfold roundHalfEven
  simp only
  split
  · exact Or.inl rfl
  · split
    · exact Or.inr rfl
    · split
      · exact Or.inl rfl
      · exact Or.inr rfl

/-- A quotient is rounded beyond an odd number exactly from the middle
behind it on, for the tie goes to the even neighbour. -/
theorem lt_roundHalfEven {num den k : Nat} (hden : 0 < den)
    (hodd : k % 2 = 1) :
    k < roundHalfEven num den ↔ (2 * k + 1) * den ≤ 2 * num := by
  have hdiv := Nat.div_add_mod num den
  have hmod := Nat.mod_lt num hden
  -- rounding moves by one at most, so only the quotient that is just the
  -- number turns on the remainder
  rcases Nat.lt_trichotomy (num / den) k with hlt | heq | hgt
  · refine iff_of_false ?_ ?_
    · rcases roundHalfEven_cases num den with h | h
      · omega
      · omega
    · have hle : den * (num / den + 1) ≤ den * k :=
        Nat.mul_le_mul_left den hlt
      have hk : (2 * k + 1) * den = 2 * (den * k) + den := by ring
      rw [Nat.mul_add, Nat.mul_one] at hle
      omega
  · -- the number is odd, so the tie goes up
    have hk : (2 * k + 1) * den = 2 * (den * (num / den)) + den := by
      rw [heq]
      ring
    have hround : roundHalfEven num den
        = if 2 * (num % den) < den then k else k + 1 := by
      unfold roundHalfEven
      simp only [heq]
      split
      · rfl
      · split
        · rfl
        · rw [if_neg (by omega)]
    rw [hround]
    split
    · omega
    · omega
  · refine iff_of_true ?_ ?_
    · rcases roundHalfEven_cases num den with h | h
      · omega
      · omega
    · have hle : den * (k + 1) ≤ den * (num / den) :=
        Nat.mul_le_mul_left den hgt
      have hk : (2 * k + 1) * den + den = 2 * (den * (k + 1)) := by ring
      omega

-- ================================================================= bits

/-- The magnitude bits of an infinity. -/
def infinityBits : Nat := 2047 * 2 ^ 52

/-- The bits of a double are those of its magnitude, with the sign in
front of them. -/
theorem toNat_ofMagnitudeBits (neg : Bool) {n : Nat} (h : n < 2 ^ 63) :
    (ofMagnitudeBits neg n).bits.toNat = (if neg then 2 ^ 63 else 0) + n := by
  unfold ofMagnitudeBits
  simp only [Nat.pow_eq, UInt64.toNat_ofNat']
  apply Nat.mod_eq_of_lt
  cases neg
  · simp only [Bool.false_eq_true, if_false]
    omega
  · simp only [if_true]
    omega

/-- Magnitude bits are those of an infinity exactly if they are all of its
exponent and none of a fraction. With a fraction they would be those of no
number. -/
theorem isInfinite_ofMagnitudeBits (neg : Bool) {n : Nat}
    (h : n < 2 ^ 63) :
    (ofMagnitudeBits neg n).isInfinite = true ↔ n = infinityBits := by
  have hbits := toNat_ofMagnitudeBits neg h
  unfold isInfinite exponentBits fractionBits infinityBits
  simp only [Nat.pow_eq, hbits, Bool.and_eq_true, beq_iff_eq]
  cases neg
  · simp only [Bool.false_eq_true, if_false]
    omega
  · simp only [if_true]
    omega

/-- Bits of a magnitude, or an infinity where they are too many: the
double is infinite exactly in the second case. -/
theorem isInfinite_capped (neg : Bool) (n : Nat) :
    (if infinityBits ≤ n then infinity neg
      else ofMagnitudeBits neg n).isInfinite = true
        ↔ infinityBits ≤ n := by
  have hinfinity : infinityBits < 2 ^ 63 := by decide
  split
  case isTrue h =>
      refine iff_of_true ?_ h
      exact (isInfinite_ofMagnitudeBits neg hinfinity).2 rfl
  case isFalse h =>
      rw [isInfinite_ofMagnitudeBits neg (by omega)]
      omega

-- ============================================================= integers

/-- The binary exponent of half a unit of the largest doubles. -/
def halfUnit : Nat := 970

/-- The least magnitude beyond the doubles: half a unit beyond the largest
of them, which has a mantissa of 53 ones. -/
def overflowBound : Nat := (2 ^ 54 - 1) * 2 ^ halfUnit

section

variable {num : Nat} {q : Int}

/-- The mantissa of a number at a binary exponent, rounded. -/
def mantissaAt (num : Nat) (q : Int) : Nat :=
  roundHalfEven (num * 2 ^ (-q).toNat) (2 ^ q.toNat)

/-- The magnitude bits for an exponent and a mantissa of 53 bits. One that
was rounded up beyond them carries into the exponent. -/
def bitsAt (q : Int) (mantissa : Nat) : Nat :=
  (q + 1075).toNat * 2 ^ 52 + (mantissa - 2 ^ 52)

/-- The exponent that leaves 53 bits for the mantissa scales a number into
them, since the number lies between two powers of two. -/
theorem scaled_bounds (hnum : num ≠ 0) (hq : q = (num.log2 : Int) - 52) :
    2 ^ 52 * 2 ^ q.toNat ≤ num * 2 ^ (-q).toNat
      ∧ num * 2 ^ (-q).toNat < 2 ^ 53 * 2 ^ q.toNat := by
  have hlow : 2 ^ num.log2 ≤ num := Nat.log2_self_le hnum
  have hhigh : num < 2 ^ (num.log2 + 1) := Nat.lt_log2_self
  have hexp : 52 + q.toNat = num.log2 + (-q).toNat := by omega
  constructor
  · rw [← Nat.pow_add, hexp, Nat.pow_add]
    exact Nat.mul_le_mul_right _ hlow
  · rw [← Nat.pow_add, show 53 + q.toNat = num.log2 + 1 + (-q).toNat by
      omega, Nat.pow_add]
    exact Nat.mul_lt_mul_of_pos_right hhigh (Nat.two_pow_pos _)

/-- Rounded, a mantissa has 53 bits, or is the next power of two where it
was rounded up beyond them. -/
theorem mantissaAt_bounds (hnum : num ≠ 0)
    (hq : q = (num.log2 : Int) - 52) :
    2 ^ 52 ≤ mantissaAt num q ∧ mantissaAt num q ≤ 2 ^ 53 := by
  have hpos : 0 < 2 ^ q.toNat := Nat.two_pow_pos _
  obtain ⟨hlow, hhigh⟩ := scaled_bounds hnum hq
  have hlow := (Nat.le_div_iff_mul_le hpos).2 hlow
  have hhigh := (Nat.div_lt_iff_lt_mul hpos).2 hhigh
  unfold mantissaAt
  rcases roundHalfEven_cases (num * 2 ^ (-q).toNat) (2 ^ q.toNat) with
    h | h
  · omega
  · omega

/-- The double of a number: its rounded mantissa at its exponent, or an
infinity. For integers other than zero there is no smaller exponent to be
kept to. -/
theorem ofRatio_eq (neg : Bool) (hnum : num ≠ 0)
    (hq : q = (num.log2 : Int) - 52) :
    ofRatio neg num 1
      = if infinityBits ≤ bitsAt q (mantissaAt num q) then infinity neg
        else ofMagnitudeBits neg (bitsAt q (mantissaAt num q)) := by
  have hguess : (num.log2 : Int) - (Nat.log2 1 : Nat) - 52 = q := by
    rw [hq, show Nat.log2 1 = 0 from rfl]
    omega
  have hnormal : ¬ num * 2 ^ (-q).toNat < 2 ^ 52 * 2 ^ q.toNat :=
    Nat.not_lt.2 (scaled_bounds hnum hq).1
  have hleast : max q (-1074) = q := by omega
  have hmantissa : ¬ roundHalfEven (num * 2 ^ (-q).toNat) (2 ^ q.toNat)
      < 2 ^ 52 := Nat.not_lt.2 (mantissaAt_bounds hnum hq).1
  unfold ofRatio
  rw [if_neg hnum]
  simp only [Nat.pow_eq, hguess, Nat.one_mul, if_neg hnormal, hleast,
    if_neg hmantissa]
  rfl

/-- The magnitude bits reach those of an infinity exactly from the bound
on. Below the last exponent both are false and beyond it both are true, so
that only this exponent needs the rounding. -/
theorem infinityBits_le_bitsAt (hnum : num ≠ 0)
    (hq : q = (num.log2 : Int) - 52) :
    infinityBits ≤ bitsAt q (mantissaAt num q) ↔ overflowBound ≤ num := by
  have hlow : 2 ^ num.log2 ≤ num := Nat.log2_self_le hnum
  have hhigh : num < 2 ^ (num.log2 + 1) := Nat.lt_log2_self
  obtain ⟨hmlow, hmhigh⟩ := mantissaAt_bounds hnum hq
  have hpos : 0 < 2 ^ halfUnit := Nat.two_pow_pos _
  have hexponent : halfUnit = 970 := rfl
  unfold infinityBits bitsAt overflowBound
  rcases Int.lt_trichotomy q (halfUnit + 1) with hlt | heq | hgt
  · -- the exponent leaves room for a carry
    refine iff_of_false (by omega) ?_
    have hle : 2 ^ (num.log2 + 1) ≤ 2 ^ (53 + halfUnit) :=
      Nat.pow_le_pow_right (by decide) (by omega)
    rw [Nat.pow_add 2 53] at hle
    omega
  · -- the largest exponent: a carry is what makes the difference
    have hscale : q.toNat = halfUnit + 1 ∧ (-q).toNat = 0 := by omega
    have hmantissa : mantissaAt num q
        = roundHalfEven num (2 ^ halfUnit * 2) := by
      unfold mantissaAt
      rw [hscale.1, hscale.2, Nat.pow_zero, Nat.mul_one, Nat.pow_succ]
    have hround := @lt_roundHalfEven num (2 ^ halfUnit * 2) (2 ^ 53 - 1)
      (Nat.mul_pos hpos Nat.two_pos) (by omega)
    rw [← hmantissa] at hround
    omega
  · -- beyond it even the least mantissa is too much
    refine iff_of_true (by omega) ?_
    have hle : 2 ^ (54 + halfUnit) ≤ 2 ^ num.log2 :=
      Nat.pow_le_pow_right (by decide) (by omega)
    rw [Nat.pow_add 2 54] at hle
    omega

end

/-- An integer has no nearest double exactly from the bound on, whatever
its sign. -/
theorem ofInt?_eq_none {n : Int} :
    ofInt? n = none ↔ overflowBound ≤ n.natAbs := by
  have hinfinite : (ofRatio (n < 0) n.natAbs 1).isInfinite = true ↔
      overflowBound ≤ n.natAbs := by
    -- zero has no leading bit to scale by
    by_cases hn : n.natAbs = 0
    · have hpos : 0 < 2 ^ halfUnit := Nat.two_pow_pos _
      rw [hn]
      refine iff_of_false ?_ ?_
      · unfold ofRatio
        rw [if_pos rfl]
        exact fun h => absurd ((isInfinite_ofMagnitudeBits _
          (by decide)).1 h) (by decide)
      · unfold overflowBound
        omega
    · rw [ofRatio_eq _ hn rfl, isInfinite_capped,
        infinityBits_le_bitsAt hn rfl]
  unfold ofInt?
  simp only
  rw [← hinfinite]
  split
  case isTrue h => exact iff_of_true rfl h
  case isFalse h => exact iff_of_false (by simp) h

end SchemaAudit.Binary64
