/-
Fractions as doubles. Around a double lies the interval of what rounds
to it (`RoundsTo`), half a unit on either side, its ends included if the
mantissa is even; just below a power of two, where the doubles lie
closer together, only a quarter of one. Whatever lies in the interval of
a double is read as the double, be it written as a fraction
(`ofRatio_of_roundsTo`) or as a decimal (`ofDecimal_of_roundsTo`).

# The exponent

The mantissa of a fraction is looked up at the exponent at which it has
53 bits (`IsScaled`), and there is one such exponent only. The lengths
of the two parts of a fraction tell it up to one (`zpow_log2_lt_div`,
`div_lt_zpow_log2`), and a comparison decides between the two
(`isScaled_exponentOf`).

# Powers of two

This exponent is that of the double except in the quarter below a power
of two: a fraction there is rounded up to the power, one exponent lower,
where the mantissa becomes one that has 54 bits. Its bits are the same,
for a mantissa that is rounded up beyond its bits carries into the
exponent (`ofRatio_below_power`).

# Decimals

A decimal is read as a fraction, unless its leading digit stands beyond
the range of doubles on either side. That of a decimal which rounds to a
double does not (`RoundsTo.leading_bounds`).
-/
import Mathlib.Algebra.Order.Field.Power
import Mathlib.Algebra.Order.Field.Rat
import Mathlib.Data.Rat.Cast.Order
import Mathlib.Tactic.Linarith
import Mathlib.Tactic.NormNum
import Mathlib.Tactic.Positivity
import Mathlib.Tactic.Ring
import SchemaAudit.Number.Shortest
import SchemaAudit.Proofs.Binary64

namespace SchemaAudit.Binary64

-- ============================================================= rounding

/-- A quotient within half a unit of a number is rounded to it; one that
is just half a unit off only if the number is even. It is stated for whole
numbers, multiplied by twice the divisor. -/
theorem roundHalfEven_eq {num den k : Nat} (hden : 0 < den)
    (hlow : 2 * (k * den) ≤ 2 * num + den)
    (hhigh : 2 * num ≤ 2 * (k * den) + den)
    (hodd : k % 2 = 1 →
      2 * (k * den) < 2 * num + den ∧ 2 * num < 2 * (k * den) + den) :
    roundHalfEven num den = k := by
  have hdiv := Nat.div_add_mod num den
  have hmod := Nat.mod_lt num hden
  -- the quotient, rounded down, is the number or one below it
  have hle : num / den ≤ k := by
    by_contra hgt
    have hmul : den * (k + 1) ≤ den * (num / den) :=
      Nat.mul_le_mul_left den (by omega)
    rw [Nat.mul_succ, Nat.mul_comm den k] at hmul
    omega
  have hge : k ≤ num / den + 1 := by
    by_contra hlt
    have hmul : den * (num / den + 2) ≤ den * k :=
      Nat.mul_le_mul_left den (by omega)
    rw [Nat.mul_add, Nat.mul_comm den k] at hmul
    omega
  have hcases : k = num / den ∨ k = num / den + 1 := by omega
  unfold roundHalfEven
  simp only
  -- in either case the tie is what the parity of the number decides
  rcases hcases with rfl | rfl
  · rw [Nat.mul_comm (num / den)] at hlow hhigh hodd
    split
    · rfl
    · rw [if_neg (by omega), if_pos]
      by_contra hne
      have hstrict := hodd (by omega)
      omega
  · rw [Nat.mul_comm (num / den + 1), Nat.mul_succ] at hlow hhigh hodd
    rw [if_neg (by omega)]
    split
    · rfl
    · rw [if_neg]
      intro heven
      have hstrict := hodd (by omega)
      omega

-- =============================================================== powers

/-- A power with an exponent of any sign, multiplied by its inverse where
that is whole, leaves the power where that is. -/
theorem zpow_mul_pow_toNat {b : ℚ} (hb : b ≠ 0) (z : Int) :
    b ^ z * b ^ (-z).toNat = b ^ z.toNat := by
  rw [← zpow_natCast, ← zpow_natCast, ← zpow_add₀ hb]
  congr 1
  omega

theorem two_zpow_pred (q : Int) : (2 : ℚ) ^ q = 2 * 2 ^ (q - 1) := by
  rw [zpow_sub₀ two_ne_zero, zpow_one]
  ring

/-- A fraction over a power, which multiplies one part or the other,
whichever is whole. -/
theorem scaled_div {b : ℚ} (hb : b ≠ 0) (num den : ℚ) (z : Int) :
    num * b ^ (-z).toNat / (den * b ^ z.toNat) = num / den / b ^ z := by
  rw [← zpow_mul_pow_toNat hb z, ← mul_assoc,
    mul_div_mul_right _ _ (pow_ne_zero _ hb), div_div]

/-- A quotient within half a unit of a number, as a fraction. This is the
form that the intervals are compared with. -/
theorem roundHalfEven_of_div {num den k : Nat} (hden : 0 < den) {w : ℚ}
    (hw : (num : ℚ) / den = w) (hlow : (k : ℚ) - 1 / 2 ≤ w)
    (hhigh : w ≤ k + 1 / 2)
    (hodd : k % 2 = 1 → (k : ℚ) - 1 / 2 < w ∧ w < k + 1 / 2) :
    roundHalfEven num den = k := by
  have hpos : (0 : ℚ) < den := by exact_mod_cast hden
  have hnum : (num : ℚ) = w * den := by rw [← hw, div_mul_cancel₀ _ hpos.ne']
  apply roundHalfEven_eq hden
  · have h := mul_le_mul_of_nonneg_right hlow hpos.le
    have : (2 * (k * den) : ℚ) ≤ 2 * num + den := by rw [hnum]; linarith
    exact_mod_cast this
  · have h := mul_le_mul_of_nonneg_right hhigh hpos.le
    have : (2 * num : ℚ) ≤ 2 * (k * den) + den := by rw [hnum]; linarith
    exact_mod_cast this
  · intro hk
    have h1 := mul_lt_mul_of_pos_right (hodd hk).1 hpos
    have h2 := mul_lt_mul_of_pos_right (hodd hk).2 hpos
    have h3 : (2 * (k * den) : ℚ) < 2 * num + den := by rw [hnum]; linarith
    have h4 : (2 * num : ℚ) < 2 * (k * den) + den := by rw [hnum]; linarith
    exact ⟨by exact_mod_cast h3, by exact_mod_cast h4⟩

-- ============================================================ exponents

/-- A number has 53 bits at an exponent: its mantissa there is from the
least of them below the first that has more. -/
def IsScaled (v : ℚ) (e : Int) : Prop :=
  2 ^ 52 * (2 : ℚ) ^ e ≤ v ∧ v < 2 ^ 53 * (2 : ℚ) ^ e

/-- The exponent of a number is at most one at which the number has no
more than 53 bits. -/
theorem IsScaled.le_of_lt {v : ℚ} {e a : Int} (h : IsScaled v e)
    (hv : v < 2 ^ 53 * (2 : ℚ) ^ a) : e ≤ a := by
  have hlt : (2 : ℚ) ^ e < 2 ^ (a + 1) := by
    have h := lt_of_le_of_lt h.1 hv
    rw [zpow_add₀ two_ne_zero, zpow_one]
    linarith
  have := (zpow_lt_zpow_iff_right₀ (one_lt_two : (1 : ℚ) < 2)).1 hlt
  omega

theorem IsScaled.unique {v : ℚ} {e a : Int} (h : IsScaled v e)
    (ha : IsScaled v a) : e = a :=
  le_antisymm (h.le_of_lt ha.2) (ha.le_of_lt h.2)

/-- The binary exponent of a fraction, from the lengths of its parts. -/
def exponentOf (num den : Nat) : Int :=
  let guess : Int := (num.log2 : Int) - den.log2 - 52
  if num * 2 ^ (-guess).toNat < 2 ^ 52 * (den * 2 ^ guess.toNat) then
    guess - 1
  else guess

/-- The lengths of the parts of a fraction bound it from below. -/
theorem zpow_log2_lt_div {num den : Nat} (hnum : num ≠ 0)
    (hden : den ≠ 0) :
    (2 : ℚ) ^ ((num.log2 : Int) - den.log2 - 1) < num / den := by
  have hd : (0 : ℚ) < den := by exact_mod_cast Nat.pos_of_ne_zero hden
  have hnlow : (2 : ℚ) ^ num.log2 ≤ num := by
    exact_mod_cast Nat.log2_self_le hnum
  have hdhigh : (den : ℚ) < 2 ^ (den.log2 + 1) := by
    exact_mod_cast Nat.lt_log2_self
  rw [lt_div_iff₀ hd]
  calc (2 : ℚ) ^ ((num.log2 : Int) - den.log2 - 1) * den
      < 2 ^ ((num.log2 : Int) - den.log2 - 1) * 2 ^ (den.log2 + 1) :=
        mul_lt_mul_of_pos_left hdhigh (by positivity)
    _ = 2 ^ num.log2 := by
        rw [← zpow_natCast, ← zpow_natCast, ← zpow_add₀ two_ne_zero]
        congr 1
        push_cast
        omega
    _ ≤ num := hnlow

/-- The lengths of the parts of a fraction bound it from above. -/
theorem div_lt_zpow_log2 (num : Nat) {den : Nat} (hden : den ≠ 0) :
    (num : ℚ) / den < 2 ^ ((num.log2 : Int) - den.log2 + 1) := by
  have hd : (0 : ℚ) < den := by exact_mod_cast Nat.pos_of_ne_zero hden
  have hdlow : (2 : ℚ) ^ den.log2 ≤ den := by
    exact_mod_cast Nat.log2_self_le hden
  have hnhigh : (num : ℚ) < 2 ^ (num.log2 + 1) := by
    exact_mod_cast Nat.lt_log2_self
  rw [div_lt_iff₀ hd]
  calc (num : ℚ) < 2 ^ (num.log2 + 1) := hnhigh
    _ = 2 ^ ((num.log2 : Int) - den.log2 + 1) * 2 ^ den.log2 := by
        rw [← zpow_natCast, ← zpow_natCast, ← zpow_add₀ two_ne_zero]
        congr 1
        push_cast
        omega
    _ ≤ 2 ^ ((num.log2 : Int) - den.log2 + 1) * den :=
        mul_le_mul_of_nonneg_left hdlow (by positivity)

/-- The exponent taken from the lengths is the one at which the fraction
has 53 bits. -/
theorem isScaled_exponentOf {num den : Nat} (hnum : num ≠ 0)
    (hden : den ≠ 0) : IsScaled ((num : ℚ) / den) (exponentOf num den) := by
  have hd : (0 : ℚ) < den := by exact_mod_cast Nat.pos_of_ne_zero hden
  have hlow := zpow_log2_lt_div hnum hden
  have hhigh := div_lt_zpow_log2 num hden
  unfold exponentOf
  generalize hguess : (num.log2 : Int) - den.log2 - 52 = guess
  simp only
  -- the lengths leave 52 or 53 bits at the exponent that is guessed
  rw [show (num.log2 : Int) - den.log2 - 1 = (51 : ℕ) + guess by omega,
    zpow_add₀ two_ne_zero, zpow_natCast] at hlow
  rw [show (num.log2 : Int) - den.log2 + 1 = (53 : ℕ) + guess by omega,
    zpow_add₀ two_ne_zero, zpow_natCast] at hhigh
  -- the comparison in whole numbers is the one of the fractions
  have hbelow : num * 2 ^ (-guess).toNat < 2 ^ 52 * (den * 2 ^ guess.toNat)
      ↔ (num : ℚ) / den < 2 ^ 52 * 2 ^ guess := by
    have hs := scaled_div (two_ne_zero : (2 : ℚ) ≠ 0) num den guess
    have hpow : (0 : ℚ) < 2 ^ guess := by positivity
    rw [← div_lt_iff₀ hpow, ← hs, div_lt_iff₀ (by positivity)]
    exact_mod_cast Iff.rfl
  split
  case isTrue h =>
      have h := hbelow.1 h
      rw [two_zpow_pred] at hlow h
      constructor <;> linarith
  case isFalse h =>
      exact ⟨not_lt.1 fun hlt => h (hbelow.2 hlt), hhigh⟩

-- ============================================================ mantissas

/-- The magnitude bits of a mantissa at an exponent. Those of a mantissa
with fewer bits than 53 are the mantissa, since its exponent is the least.
-/
def magnitudeBits (m : Nat) (q : Int) : Nat :=
  if m < 2 ^ 52 then m else bitsAt q m

/-- The double of a fraction whose mantissa, rounded at the exponent that
it has or the least one there is, is known. What is left to do for a
fraction is to know its mantissa. -/
theorem ofRatio_of_isScaled (neg : Bool) {num den m : Nat} {q e : Int}
    (hnum : num ≠ 0) (hden : den ≠ 0)
    (he : IsScaled ((num : ℚ) / den) e) (hq : max e (-1074) = q)
    (hm : roundHalfEven (num * 2 ^ (-q).toNat) (den * 2 ^ q.toNat) = m)
    (hfinite : magnitudeBits m q < infinityBits) :
    ofRatio neg num den = ofMagnitudeBits neg (magnitudeBits m q) := by
  have hexp : exponentOf num den = e :=
    (isScaled_exponentOf hnum hden).unique he
  unfold exponentOf at hexp
  unfold ofRatio
  rw [if_neg hnum]
  simp only [Nat.pow_eq] at hexp ⊢
  rw [hexp, hq, hm]
  have hbits : (if m < 2 ^ 52 then m
      else (q + 1075).toNat * 2 ^ 52 + (m - 2 ^ 52)) = magnitudeBits m q :=
    rfl
  rw [hbits]
  exact if_neg (Nat.not_le.2 hfinite)

/-- The mantissas and exponents of doubles other than zeros: within 53
bits, and with all of them above the least exponent. -/
structure IsMantissa (m : Nat) (q : Int) : Prop where
  pos : 0 < m
  lt : m < 2 ^ 53
  least : -1074 ≤ q
  most : q ≤ 971
  normal : -1074 < q → 2 ^ 52 ≤ m

theorem IsMantissa.finite {m : Nat} {q : Int} (h : IsMantissa m q) :
    magnitudeBits m q < infinityBits := by
  obtain ⟨-, hlt, hleast, hmost, -⟩ := h
  unfold magnitudeBits bitsAt infinityBits
  split <;> omega

/-- The bits of a finite double are those of its magnitude, and with its
sign they are the double. -/
theorem ofMagnitudeBits_of_magnitude? {x : Binary64} {m : Nat} {q : Int}
    (h : x.magnitude? = some (m, q)) :
    ofMagnitudeBits x.negative (magnitudeBits m q) = x := by
  have hbits : x.bits.toNat < 2 ^ 64 := x.bits.toNat_lt
  -- the magnitude is the exponent and the fraction put together
  have hmagnitude : magnitudeBits m q
      = x.exponentBits * 2 ^ 52 + x.fractionBits := by
    have hfraction : x.fractionBits < 2 ^ 52 := Nat.mod_lt _ (by decide)
    unfold magnitude? at h
    split at h
    case isTrue => cases h
    case isFalse =>
        unfold magnitudeBits bitsAt
        split at h
        case isTrue hzero =>
            obtain ⟨rfl, rfl⟩ := Prod.mk.inj (Option.some.inj h)
            rw [if_pos hfraction]
            omega
        case isFalse =>
            obtain ⟨rfl, rfl⟩ := Prod.mk.inj (Option.some.inj h)
            simp only [Nat.pow_eq]
            rw [if_neg (by omega)]
            omega
  -- and with the sign they are all the bits
  have hsplit : (if x.negative then 2 ^ 63 else 0)
      + (x.exponentBits * 2 ^ 52 + x.fractionBits) = x.bits.toNat := by
    unfold negative exponentBits fractionBits
    simp only [Nat.pow_eq, beq_iff_eq]
    split <;> omega
  have hlt : magnitudeBits m q < 2 ^ 63 := by
    rw [hmagnitude]
    unfold exponentBits fractionBits
    simp only [Nat.pow_eq]
    omega
  have heq := toNat_ofMagnitudeBits x.negative hlt
  rw [hmagnitude, hsplit] at heq
  rw [← hmagnitude] at heq
  exact congrArg Binary64.mk (UInt64.toNat_inj.1 heq)

/-- The magnitude of a finite double that is no zero is such a mantissa
and exponent. -/
theorem isMantissa_of_magnitude? {x : Binary64} {m : Nat} {q : Int}
    (h : x.magnitude? = some (m, q)) (hm : 0 < m) : IsMantissa m q := by
  have hfraction : x.fractionBits < 2 ^ 52 := Nat.mod_lt _ (by decide)
  have hexponent : x.exponentBits < 2 ^ 11 := Nat.mod_lt _ (by decide)
  unfold magnitude? at h
  split at h
  case isTrue => cases h
  case isFalse hne =>
      split at h
      case isTrue hzero =>
          obtain ⟨rfl, rfl⟩ := Prod.mk.inj (Option.some.inj h)
          exact ⟨hm, by omega, by omega, by omega, by omega⟩
      case isFalse hnz =>
          obtain ⟨rfl, rfl⟩ := Prod.mk.inj (Option.some.inj h)
          simp only [Nat.pow_eq]
          exact ⟨by omega, by omega, by omega, by omega, by omega⟩

-- ============================================================ intervals

/-- Whether a number rounds to a double: it lies in the interval around
it, whose ends belong to it if the mantissa is even. -/
def RoundsTo (m : Nat) (q : Int) (v : ℚ) : Prop :=
  if m % 2 = 0 then
    (interval m q).1 * (2 : ℚ) ^ (q - 2) ≤ v
      ∧ v ≤ (interval m q).2.2 * (2 : ℚ) ^ (q - 2)
  else
    (interval m q).1 * (2 : ℚ) ^ (q - 2) < v
      ∧ v < (interval m q).2.2 * (2 : ℚ) ^ (q - 2)

/-- The high end of the interval is half a unit above the double. -/
theorem interval_high (m : Nat) (q : Int) :
    ((interval m q).2.2 : ℚ) = 4 * m + 2 := by
  unfold interval
  push_cast
  rfl

theorem interval_low_lt {m : Nat} (hm : 0 < m) (q : Int) :
    (interval m q).1 < 4 * m := by
  unfold interval
  simp only
  split <;> omega

/-- The low end of the interval is half a unit below the double, or a
quarter of one below a power of two. -/
theorem interval_low {m : Nat} (hm : 0 < m) (q : Int) :
    ((interval m q).1 : ℚ)
      = 4 * m - if m = 2 ^ 52 ∧ -1074 < q then 1 else 2 := by
  unfold interval
  simp only [Nat.pow_eq]
  split
  · rw [Nat.cast_sub (by omega)]
    push_cast
    rfl
  · rw [Nat.cast_sub (by omega)]
    push_cast
    rfl

/-- The low end of the interval of a positive double is above zero. -/
theorem interval_low_pos {m : Nat} (hm : 0 < m) (q : Int) :
    0 < (interval m q).1 := by
  unfold interval
  simp only
  split <;> omega

theorem RoundsTo.pos {m : Nat} {q : Int} {v : ℚ} (hm : 0 < m)
    (h : RoundsTo m q v) : 0 < v := by
  have hlow : (0 : ℚ) < (interval m q).1 := by
    exact_mod_cast interval_low_pos hm q
  have hpos : (0 : ℚ) < (interval m q).1 * (2 : ℚ) ^ (q - 2) := by
    positivity
  unfold RoundsTo at h
  split at h
  · exact lt_of_lt_of_le hpos h.1
  · exact lt_trans hpos h.1

theorem two_zpow_quarters (q : Int) : (2 : ℚ) ^ q = 4 * 2 ^ (q - 2) := by
  rw [zpow_sub₀ two_ne_zero]
  norm_num
  ring

/-- What rounds to a double lies between the ends of its interval, and
strictly between them if the mantissa is odd. -/
theorem RoundsTo.quarters {m : Nat} {q : Int} {w : ℚ}
    (h : RoundsTo m q (w * 2 ^ q)) :
    ((interval m q).1 : ℚ) ≤ 4 * w ∧ 4 * w ≤ (interval m q).2.2
      ∧ (m % 2 = 1 → ((interval m q).1 : ℚ) < 4 * w
        ∧ 4 * w < (interval m q).2.2) := by
  have hpos : (0 : ℚ) < 2 ^ (q - 2) := by positivity
  unfold RoundsTo at h
  rw [two_zpow_quarters q,
    show w * (4 * 2 ^ (q - 2)) = 4 * w * 2 ^ (q - 2) by ring] at h
  split at h
  case isTrue heven =>
      refine ⟨le_of_mul_le_mul_right h.1 hpos,
        le_of_mul_le_mul_right h.2 hpos, fun hodd => ?_⟩
      omega
  case isFalse hodd =>
      have h1 := lt_of_mul_lt_mul_right h.1 hpos.le
      have h2 := lt_of_mul_lt_mul_right h.2 hpos.le
      exact ⟨h1.le, h2.le, fun _ => ⟨h1, h2⟩⟩

/-- A number is near a mantissa if it is at most half a unit off, and less
than that if the mantissa is odd. Below a power of two the unit is only
half as long. -/
structure IsNear (m : Nat) (q : Int) (w : ℚ) : Prop where
  low : (m : ℚ) - 1 / 2 ≤ w
  high : w ≤ m + 1 / 2
  odd : m % 2 = 1 → (m : ℚ) - 1 / 2 < w ∧ w < m + 1 / 2
  power : m = 2 ^ 52 → -1074 < q → (m : ℚ) - 1 / 4 ≤ w

/-- What rounds to a double is near its mantissa, at its exponent. -/
theorem RoundsTo.isNear {m : Nat} {q : Int} {w : ℚ} (hm : 0 < m)
    (h : RoundsTo m q (w * 2 ^ q)) : IsNear m q w := by
  obtain ⟨hlow, hhigh, hodd⟩ := h.quarters
  rw [interval_low hm] at hlow hodd
  rw [interval_high] at hhigh hodd
  by_cases hp : m = 2 ^ 52 ∧ -1074 < q
  · -- a power of two is even
    rw [if_pos hp] at hlow
    refine ⟨by linarith, by linarith, fun h1 => ?_, fun _ _ => by linarith⟩
    omega
  · rw [if_neg hp] at hlow hodd
    refine ⟨by linarith, by linarith, fun h1 => ?_, fun h4 h5 =>
      absurd ⟨h4, h5⟩ hp⟩
    obtain ⟨h2, h3⟩ := hodd h1
    exact ⟨by linarith, by linarith⟩

-- ============================================================ fractions

/-- A fraction near a mantissa at an exponent is rounded to it there, and
ties go as they should. -/
theorem roundHalfEven_scaled {num den m : Nat} {q : Int} {w : ℚ}
    (hden : den ≠ 0) (hw : (num : ℚ) / den = w * 2 ^ q)
    (hlow : (m : ℚ) - 1 / 2 ≤ w) (hhigh : w ≤ m + 1 / 2)
    (hodd : m % 2 = 1 → (m : ℚ) - 1 / 2 < w ∧ w < m + 1 / 2) :
    roundHalfEven (num * 2 ^ (-q).toNat) (den * 2 ^ q.toNat) = m := by
  have hu : (0 : ℚ) < 2 ^ q := by positivity
  apply roundHalfEven_of_div (w := w) (by positivity) _ hlow hhigh hodd
  push_cast
  rw [scaled_div two_ne_zero, hw, mul_div_cancel_right₀ _ hu.ne']

/-- Just below a power of two the doubles lie closer together: the
mantissa of a fraction there is rounded up to the power, one exponent
lower. -/
theorem ofRatio_below_power (neg : Bool) {num den : Nat} {q : Int} {w : ℚ}
    (hden : den ≠ 0) (hw : (num : ℚ) / den = w * 2 ^ q)
    (hm : IsMantissa (2 ^ 52) q) (hq : -1074 < q)
    (hlow : 2 ^ 52 - 1 / 4 ≤ w) (hlt : w < 2 ^ 52) :
    ofRatio neg num den
      = ofMagnitudeBits neg (magnitudeBits (2 ^ 52) q) := by
  have hu : (0 : ℚ) < 2 ^ (q - 1) := by positivity
  -- one exponent lower, where the fraction has its 53 bits
  have hw' : (num : ℚ) / den = 2 * w * 2 ^ (q - 1) := by
    rw [hw, two_zpow_pred q]
    ring
  have hnum : num ≠ 0 := by
    rintro rfl
    rw [Nat.cast_zero, zero_div] at hw'
    have := (mul_eq_zero.1 hw'.symm).resolve_right hu.ne'
    linarith
  have hscaled : IsScaled ((num : ℚ) / den) (q - 1) := by
    rw [hw']
    constructor
    · apply mul_le_mul_of_nonneg_right _ hu.le
      linarith
    · apply mul_lt_mul_of_pos_right _ hu
      linarith
  -- twice a quarter is half a unit there, and the mantissa is even
  have hround : roundHalfEven (num * 2 ^ (-(q - 1)).toNat)
      (den * 2 ^ (q - 1).toNat) = 2 ^ 53 := by
    apply roundHalfEven_scaled hden hw'
    · push_cast
      linarith
    · push_cast
      linarith
    · intro h
      norm_num at h
  -- the mantissa of one bit more carries into the exponent
  have hbits : magnitudeBits (2 ^ 53) (q - 1)
      = magnitudeBits (2 ^ 52) q := by
    unfold magnitudeBits bitsAt
    rw [if_neg (by norm_num), if_neg (by norm_num)]
    omega
  have hfinite := hm.finite
  rw [← hbits] at hfinite ⊢
  exact ofRatio_of_isScaled neg hnum hden hscaled (by omega) hround hfinite

/-- A fraction that rounds to a double is read as it. The cases are the
two sides of the mantissa, since below a power of two the fraction has
another exponent. -/
theorem ofRatio_of_roundsTo (neg : Bool) {num den m : Nat} {q : Int}
    (hden : den ≠ 0) (hm : IsMantissa m q)
    (hv : RoundsTo m q ((num : ℚ) / den)) :
    ofRatio neg num den = ofMagnitudeBits neg (magnitudeBits m q) := by
  have hu : (0 : ℚ) < 2 ^ q := by positivity
  -- the fraction in units of the exponent of the double
  obtain ⟨w, hw⟩ : ∃ w, (num : ℚ) / den = w * 2 ^ q :=
    ⟨num / den / 2 ^ q, (div_mul_cancel₀ _ hu.ne').symm⟩
  rw [hw] at hv
  obtain ⟨hlow, hhigh, hodd, hpower⟩ := hv.isNear hm.pos
  have hmpos : (1 : ℚ) ≤ m := by exact_mod_cast hm.pos
  have hmlt : ((m + 1 : ℕ) : ℚ) ≤ 2 ^ 53 := by exact_mod_cast hm.lt
  push_cast at hmlt
  by_cases hbelow : w < 2 ^ 52 ∧ -1074 < q
  · obtain ⟨hbelow, hq⟩ := hbelow
    -- only the least mantissa reaches below the power of two
    have hm52 : m = 2 ^ 52 := by
      refine le_antisymm (not_lt.1 fun hgt => ?_) (hm.normal hq)
      have h : ((2 ^ 52 + 1 : ℕ) : ℚ) ≤ m := by exact_mod_cast hgt
      push_cast at h
      linarith
    have hlow := hpower hm52 hq
    rw [hm52] at hlow hm ⊢
    rw [Nat.cast_pow, Nat.cast_ofNat] at hlow
    exact ofRatio_below_power neg hden hw hm hq hlow hbelow
  · have hnum : num ≠ 0 := by
      rintro rfl
      rw [Nat.cast_zero, zero_div] at hw
      have := (mul_eq_zero.1 hw.symm).resolve_right hu.ne'
      linarith
    have hscaled := isScaled_exponentOf hnum hden
    -- at or above the power of two, both have the same exponent, or both have
    -- the least one there is
    have htop : (num : ℚ) / den < 2 ^ 53 * 2 ^ q := by
      rw [hw]
      apply mul_lt_mul_of_pos_right _ hu
      linarith
    have hmax : max (exponentOf num den) (-1074) = q := by
      rcases Int.lt_or_le (-1074) q with hq | hq
      · have hge : 2 ^ 52 * (2 : ℚ) ^ q ≤ num / den := by
          rw [hw]
          exact mul_le_mul_of_nonneg_right
            (not_lt.1 fun h => hbelow ⟨h, hq⟩) hu.le
        rw [hscaled.unique ⟨hge, htop⟩]
        omega
      · have := hscaled.le_of_lt htop
        have := hm.least
        omega
    exact ofRatio_of_isScaled neg hnum hden hscaled hmax
      (roundHalfEven_scaled hden hw hlow hhigh hodd) hm.finite

-- ============================================================= decimals

/-- A number lies between the powers of ten that its digits count. -/
theorem toDigits_bounds {n : Nat} (hn : 0 < n) :
    10 ^ ((Nat.toDigits 10 n).length - 1) ≤ n
      ∧ n < 10 ^ (Nat.toDigits 10 n).length := by
  have hlen : 0 < (Nat.toDigits 10 n).length :=
    List.length_pos_iff.2 Nat.toDigits_ne_nil
  constructor
  · by_contra hlt
    rcases Nat.eq_zero_or_pos ((Nat.toDigits 10 n).length - 1) with h | h
    · rw [h] at hlt
      omega
    · have hle := (Nat.length_toDigits_le_iff (by decide) h).2
        (Nat.not_le.1 hlt)
      omega
  · exact (Nat.length_toDigits_le_iff (by decide) hlen).1 (le_refl _)

/-- What rounds to a double lies in the range of doubles, from half of the
least to the first power of two beyond them. -/
theorem RoundsTo.bounds {m : Nat} {q : Int} {v : ℚ} (hm : IsMantissa m q)
    (h : RoundsTo m q v) : (2 : ℚ) ^ (-1075 : Int) ≤ v ∧ v < 2 ^ 1024 := by
  obtain ⟨hpos, hlt, hleast, hmost, -⟩ := hm
  have hu : (0 : ℚ) < 2 ^ q := by positivity
  obtain ⟨w, rfl⟩ : ∃ w, v = w * 2 ^ q :=
    ⟨v / 2 ^ q, (div_mul_cancel₀ _ hu.ne').symm⟩
  obtain ⟨hlow, hhigh, -, -⟩ := h.isNear hpos
  have hm1 : (1 : ℚ) ≤ m := by exact_mod_cast hpos
  have hm53 : ((m + 1 : ℕ) : ℚ) ≤ 2 ^ 53 := by exact_mod_cast hlt
  push_cast at hm53
  -- in units of the exponent, from half of one to the next power of two
  have hwlow : (1 : ℚ) / 2 ≤ w := by linarith
  have hwhigh : w < 2 ^ 53 := by linarith
  constructor
  · have hle : (2 : ℚ) ^ (-1074 : Int) ≤ 2 ^ q :=
      zpow_le_zpow_right₀ one_le_two hleast
    have hhalf : (2 : ℚ) ^ (-1075 : Int) = 1 / 2 * 2 ^ (-1074 : Int) := by
      rw [show (-1075 : Int) = -1074 - 1 by norm_num,
        zpow_sub₀ two_ne_zero, zpow_one]
      ring
    rw [hhalf]
    exact mul_le_mul hwlow hle (by positivity) (by linarith)
  · have hle : (2 : ℚ) ^ q ≤ 2 ^ (971 : Int) :=
      zpow_le_zpow_right₀ one_le_two hmost
    have htop : (2 : ℚ) ^ 53 * 2 ^ (971 : Int) = 2 ^ 1024 := by
      rw [← zpow_natCast, ← zpow_add₀ two_ne_zero]
      norm_num
    calc w * 2 ^ q < 2 ^ 53 * 2 ^ q := mul_lt_mul_of_pos_right hwhigh hu
      _ ≤ 2 ^ 53 * 2 ^ (971 : Int) :=
          mul_le_mul_of_nonneg_left hle (by positivity)
      _ = 2 ^ 1024 := htop

/-- A decimal that rounds to a double has its leading digit in the range
of doubles: not so far up or down that it would not be looked at. -/
theorem RoundsTo.leading_bounds {digits m : Nat} {exponent q : Int}
    (hdigits : 0 < digits) (hm : IsMantissa m q)
    (h : RoundsTo m q (digits * 10 ^ exponent)) :
    -330 ≤ ((Nat.toDigits 10 digits).length : Int) + exponent
      ∧ ((Nat.toDigits 10 digits).length : Int) + exponent ≤ 310 := by
  obtain ⟨hleast, hmost⟩ := h.bounds hm
  have hpow : (0 : ℚ) < 10 ^ exponent := by positivity
  obtain ⟨hlow, hhigh⟩ := toDigits_bounds hdigits
  have hlen : 0 < (Nat.toDigits 10 digits).length :=
    List.length_pos_iff.2 Nat.toDigits_ne_nil
  -- only the number of digits matters from here on
  generalize (Nat.toDigits 10 digits).length = count at hlow hhigh hlen ⊢
  have hlow : (10 : ℚ) ^ ((count : Int) + exponent - 1)
      ≤ digits * 10 ^ exponent := by
    rw [show (count : Int) + exponent - 1 = (count - 1 : ℕ) + exponent by
      omega, zpow_add₀ (by norm_num), zpow_natCast]
    exact mul_le_mul_of_nonneg_right (by exact_mod_cast hlow) hpow.le
  have hhigh : digits * (10 : ℚ) ^ exponent
      < 10 ^ ((count : Int) + exponent) := by
    rw [zpow_add₀ (by norm_num), zpow_natCast]
    exact mul_lt_mul_of_pos_right (by exact_mod_cast hhigh) hpow
  constructor
  · by_contra h
    have hle : (10 : ℚ) ^ ((count : Int) + exponent) ≤ 10 ^ (-331 : Int) :=
      zpow_le_zpow_right₀ (by norm_num) (by omega)
    -- powers of ten beyond the range, compared as whole numbers
    have hsmall : (10 : ℚ) ^ (-331 : Int) < 2 ^ (-1075 : Int) := by
      have h : 2 ^ 1075 < 10 ^ 331 := by decide +kernel
      rw [zpow_neg, zpow_neg, inv_lt_inv₀ (by positivity) (by positivity)]
      exact_mod_cast h
    exact absurd (hhigh.trans_le hle) (not_lt.2 (hsmall.le.trans hleast))
  · by_contra h
    have hle : (10 : ℚ) ^ (310 : Int)
        ≤ 10 ^ ((count : Int) + exponent - 1) :=
      zpow_le_zpow_right₀ (by norm_num) (by omega)
    have hbig : (2 : ℚ) ^ 1024 < 10 ^ (310 : Int) := by
      have h : 2 ^ 1024 < 10 ^ 310 := by decide +kernel
      exact_mod_cast h
    exact absurd (hle.trans hlow) (not_le.2 (hmost.trans hbig))

/-- A decimal that rounds to a double is read as it, whether its exponent
multiplies or divides. -/
theorem ofDecimal_of_roundsTo (neg : Bool) {digits m : Nat}
    {exponent q : Int} (hm : IsMantissa m q)
    (hv : RoundsTo m q (digits * 10 ^ exponent)) :
    ofDecimal neg digits exponent
      = ofMagnitudeBits neg (magnitudeBits m q) := by
  have hdigits : 0 < digits := by
    refine Nat.pos_of_ne_zero ?_
    rintro rfl
    have hpos := hv.pos hm.pos
    rw [Nat.cast_zero, zero_mul] at hpos
    exact lt_irrefl _ hpos
  obtain ⟨hleast, hmost⟩ := hv.leading_bounds hdigits hm
  unfold ofDecimal
  simp only [Nat.pow_eq]
  rw [if_neg hdigits.ne', if_neg (Int.not_lt.2 hmost),
    if_neg (Int.not_lt.2 hleast)]
  apply ofRatio_of_roundsTo neg (by positivity) hm
  have hvalue : ((digits * 10 ^ exponent.toNat : ℕ) : ℚ)
      / ((10 ^ (-exponent).toNat : ℕ) : ℚ) = digits * 10 ^ exponent := by
    push_cast
    rw [← zpow_mul_pow_toNat (show (10 : ℚ) ≠ 0 by norm_num) exponent,
      ← mul_assoc, mul_div_cancel_right₀ _ (by positivity)]
  rw [hvalue]
  exact hv

end SchemaAudit.Binary64
