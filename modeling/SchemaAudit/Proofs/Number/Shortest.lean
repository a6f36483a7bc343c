/-
The shortest decimal of a double. A grid of decimals is asked for a
point in the interval around the double, and what it answers with lies
there (`roundsTo_of_neighbour?`); a grid whose points are at most half a
unit apart has an answer (`exists_neighbour?`), and the seventeenth
digit stands for less than that. So the search always finds something
(`roundsTo_shortestOf`), and a decimal of the value that it finds is
read as the double, sign and all (`ofDecimal_shortest`).

# Whole numbers and fractions

The search works in whole numbers: quarters of a unit and points of a
grid, multiplied until neither has a denominator (`onGrid`). The proofs
work in fractions, and `exists_onGrid` is the bridge: there is one
positive factor between the two, by which every comparison is the same
on both sides.

# The first grid

The search tries grids of more and more digits, from one on, and takes
the first that answers. That an answer is short is how it is found; what
is proved of it is that it is right.
-/
import SchemaAudit.Proofs.Number.Rounding

namespace SchemaAudit.Binary64

-- ================================================================ grids

/-- Quarters of a unit, and points of a decimal grid, as multiples of one
number. -/
theorem exists_onGrid (q e : Int) :
    ∃ c : ℚ, 0 < c
      ∧ (∀ x : Nat, ((onGrid x q e).1 : ℚ) = x * 2 ^ (q - 2) * c)
      ∧ ∀ x y : Nat, ((y * (onGrid x q e).2 : ℕ) : ℚ) = y * 10 ^ e * c := by
  have h2 := zpow_mul_pow_toNat (two_ne_zero : (2 : ℚ) ≠ 0) (q - 2)
  have h10 := zpow_mul_pow_toNat (show (10 : ℚ) ≠ 0 by norm_num) e
  rw [neg_sub] at h2
  refine ⟨2 ^ (2 - q).toNat * 10 ^ (-e).toNat, by positivity,
    fun x => ?_, fun x y => ?_⟩
  · unfold onGrid
    simp only [Nat.pow_eq]
    push_cast
    rw [← h2]
    ring
  · unfold onGrid
    simp only [Nat.pow_eq]
    push_cast
    rw [← h10]
    ring

/-- Whether a point of a decimal grid lies in the interval around a
double, its ends included if the mantissa is even. -/
def isInside (m : Nat) (q e : Int) (k : Nat) : Bool :=
  let (low, _, high) := interval m q
  let (ln, d) := onGrid low q e
  let (hn, _) := onGrid high q e
  if m % 2 = 0 then ln ≤ k * d && k * d ≤ hn
  else ln < k * d && k * d < hn

/-- What is compared, with the parts of the interval written out. -/
theorem isInside_eq (m : Nat) (q e : Int) (k : Nat) :
    isInside m q e k
      = if m % 2 = 0 then
          (onGrid (interval m q).1 q e).1
              ≤ k * (onGrid (interval m q).1 q e).2
            && k * (onGrid (interval m q).1 q e).2
              ≤ (onGrid (interval m q).2.2 q e).1
        else
          (onGrid (interval m q).1 q e).1
              < k * (onGrid (interval m q).1 q e).2
            && k * (onGrid (interval m q).1 q e).2
              < (onGrid (interval m q).2.2 q e).1 := rfl

/-- A point of a grid lies in the interval exactly if it rounds to the
double. -/
theorem isInside_iff {m : Nat} {q e : Int} {k : Nat} :
    isInside m q e k = true ↔ RoundsTo m q (k * 10 ^ e) := by
  obtain ⟨c, hc, hx, hy⟩ := exists_onGrid q e
  -- both sides of each comparison, multiplied by the one factor
  have hle : ∀ x : Nat, (onGrid x q e).1 ≤ k * (onGrid x q e).2
      ↔ x * (2 : ℚ) ^ (q - 2) ≤ k * 10 ^ e := by
    intro x
    rw [← mul_le_mul_iff_of_pos_right hc, ← hx x, ← hy x k, Nat.cast_le]
  have hge : ∀ x y : Nat, k * (onGrid x q e).2 ≤ (onGrid y q e).1
      ↔ k * (10 : ℚ) ^ e ≤ y * 2 ^ (q - 2) := by
    intro x y
    rw [← mul_le_mul_iff_of_pos_right hc, ← hx y, ← hy x k, Nat.cast_le]
  have hlt : ∀ x : Nat, (onGrid x q e).1 < k * (onGrid x q e).2
      ↔ x * (2 : ℚ) ^ (q - 2) < k * 10 ^ e := by
    intro x
    rw [← mul_lt_mul_iff_of_pos_right hc, ← hx x, ← hy x k, Nat.cast_lt]
  have hgt : ∀ x y : Nat, k * (onGrid x q e).2 < (onGrid y q e).1
      ↔ k * (10 : ℚ) ^ e < y * 2 ^ (q - 2) := by
    intro x y
    rw [← mul_lt_mul_iff_of_pos_right hc, ← hx y, ← hy x k, Nat.cast_lt]
  rw [isInside_eq]
  unfold RoundsTo
  split
  case isTrue =>
      rw [Bool.and_eq_true, decide_eq_true_eq, decide_eq_true_eq, hle, hge]
  case isFalse =>
      rw [Bool.and_eq_true, decide_eq_true_eq, decide_eq_true_eq, hlt, hgt]

/-- The grid point at or below a double. -/
def gridFloor (m : Nat) (q e : Int) : Nat :=
  (onGrid (4 * m) q e).1 / (onGrid (4 * m) q e).2

/-- What a grid answers with: of the two neighbours of the double the
nearer one if both lie inside, and else the one that does. -/
theorem neighbour?_eq (m : Nat) (q e : Int) :
    neighbour? m q e
      = match isInside m q e (gridFloor m q e),
          isInside m q e (gridFloor m q e + 1) with
        | true, true =>
            some (roundHalfEven (onGrid (4 * m) q e).1
              (onGrid (4 * m) q e).2)
        | true, false => some (gridFloor m q e)
        | false, true => some (gridFloor m q e + 1)
        | false, false => none := rfl

/-- What is found on a grid rounds to the double, since it lies inside its
interval. -/
theorem roundsTo_of_neighbour? {m : Nat} {q e : Int} {k : Nat}
    (h : neighbour? m q e = some k) : RoundsTo m q (k * 10 ^ e) := by
  rw [← isInside_iff]
  rw [neighbour?_eq] at h
  cases hfloor : isInside m q e (gridFloor m q e) with
  | true =>
      cases hnext : isInside m q e (gridFloor m q e + 1) with
      | true =>
          rw [hfloor, hnext] at h
          injection h with h
          rcases roundHalfEven_cases (onGrid (4 * m) q e).1
            (onGrid (4 * m) q e).2 with hk | hk
          · rw [← h, hk]
            exact hfloor
          · rw [← h, hk]
            exact hnext
      | false =>
          rw [hfloor, hnext] at h
          injection h with h
          rw [← h]
          exact hfloor
  | false =>
      cases hnext : isInside m q e (gridFloor m q e + 1) with
      | true =>
          rw [hfloor, hnext] at h
          injection h with h
          rw [← h]
          exact hnext
      | false =>
          rw [hfloor, hnext] at h
          cases h

/-- A number strictly inside the interval rounds to the double, whether or
not the ends do. -/
theorem roundsTo_of_lt {m : Nat} {q : Int} {v : ℚ}
    (hlow : (interval m q).1 * (2 : ℚ) ^ (q - 2) < v)
    (hhigh : v < (interval m q).2.2 * (2 : ℚ) ^ (q - 2)) :
    RoundsTo m q v := by
  unfold RoundsTo
  split
  · exact ⟨hlow.le, hhigh.le⟩
  · exact ⟨hlow, hhigh⟩

/-- A double lies between two neighbours on a grid, or on the lower of
them. -/
theorem gridFloor_bounds (m : Nat) (q e : Int) :
    (gridFloor m q e : ℚ) * 10 ^ e ≤ 4 * m * 2 ^ (q - 2)
      ∧ 4 * m * (2 : ℚ) ^ (q - 2) < (gridFloor m q e + 1 : ℕ) * 10 ^ e := by
  obtain ⟨c, hc, hx, hy⟩ := exists_onGrid q e
  have hd : 0 < (onGrid (4 * m) q e).2 := by
    have hpos : (0 : ℚ) < 1 * 10 ^ e * c := by positivity
    have hy1 := hy (4 * m) 1
    rw [Nat.cast_one, Nat.one_mul] at hy1
    rw [← hy1] at hpos
    exact_mod_cast hpos
  have hx4 := hx (4 * m)
  push_cast at hx4
  constructor
  · rw [← mul_le_mul_iff_of_pos_right hc, ← hy (4 * m), ← hx4, Nat.cast_le]
    exact Nat.div_mul_le_self _ _
  · rw [← mul_lt_mul_iff_of_pos_right hc, ← hy (4 * m), ← hx4, Nat.cast_lt]
    exact (Nat.div_lt_iff_lt_mul hd).1 (Nat.lt_succ_self _)

/-- On a grid whose points are at most half a unit apart, one of the two
neighbours rounds to the double: the interval is longer than the distance
between them. -/
theorem isInside_gridFloor {m : Nat} {q e : Int} (hm : 0 < m)
    (h : (10 : ℚ) ^ e ≤ 2 * 2 ^ (q - 2)) :
    isInside m q e (gridFloor m q e) = true
      ∨ isInside m q e (gridFloor m q e + 1) = true := by
  obtain ⟨hbelow, habove⟩ := gridFloor_bounds m q e
  have hu : (0 : ℚ) < 2 ^ (q - 2) := by positivity
  have hlow : ((interval m q).1 : ℚ) < 4 * m := by
    exact_mod_cast interval_low_lt hm q
  have hlow := mul_lt_mul_of_pos_right hlow hu
  have hhigh := interval_high m q
  rw [isInside_iff, isInside_iff]
  rcases hbelow.eq_or_lt with heq | hlt
  · refine Or.inl (roundsTo_of_lt ?_ ?_)
    · rw [heq]
      exact hlow
    · rw [heq, hhigh]
      linarith
  · refine Or.inr (roundsTo_of_lt (hlow.trans habove) ?_)
    rw [hhigh]
    push_cast
    linarith

/-- Such a grid has a point that rounds to the double, and answers with
one. -/
theorem exists_neighbour? {m : Nat} {q e : Int} (hm : 0 < m)
    (h : (10 : ℚ) ^ e ≤ 2 * 2 ^ (q - 2)) :
    ∃ k, neighbour? m q e = some k := by
  rw [neighbour?_eq]
  rcases isInside_gridFloor hm h with h | h
  · rw [h]
    cases isInside m q e (gridFloor m q e + 1) with
    | true => exact ⟨_, rfl⟩
    | false => exact ⟨_, rfl⟩
  · rw [h]
    cases isInside m q e (gridFloor m q e) with
    | true => exact ⟨_, rfl⟩
    | false => exact ⟨_, rfl⟩

-- =============================================================== search

/-- The value of a decimal. -/
def decimalValue (d : Decimal) : ℚ := d.digits * 10 ^ d.exponent

/-- A search that comes to a fine enough grid finds what rounds to the
double, on that grid or on a coarser one before it. -/
theorem roundsTo_search {m : Nat} {q top : Int} (hm : 0 < m)
    {tries digits : Nat}
    (h : ∃ j < tries, (10 : ℚ) ^ (top - (digits + j : ℕ)) ≤ 2 * 2 ^ (q - 2)) :
    RoundsTo m q (decimalValue (search m q top tries digits)) := by
  induction tries generalizing digits with
  | zero =>
      obtain ⟨j, hj, -⟩ := h
      omega
  | succ tries ih =>
      unfold search
      simp only
      split
      case h_1 k hk => exact roundsTo_of_neighbour? hk
      case h_2 hnone =>
          obtain ⟨j, hj, h⟩ := h
          cases j with
          | zero =>
              -- this grid is fine enough, so it would have answered
              obtain ⟨k, hk⟩ := exists_neighbour? hm h
              rw [Nat.add_zero, hnone] at hk
              cases hk
          | succ j =>
              refine ih ⟨j, by omega, ?_⟩
              rw [Nat.add_right_comm]
              exact h

/-- Moving zeros into the exponent does not change the value of a decimal.
-/
theorem decimalValue_stripZeros (tries : Nat) (d : Decimal) :
    decimalValue (stripZeros tries d) = decimalValue d := by
  induction tries generalizing d with
  | zero => rfl
  | succ tries ih =>
      unfold stripZeros
      split
      case isFalse => rfl
      case isTrue h =>
          rw [ih]
          have hdiv : (d.digits : ℚ) = (d.digits / 10 : ℕ) * 10 := by
            exact_mod_cast (Nat.div_mul_cancel
              (Nat.dvd_of_mod_eq_zero h.1)).symm
          unfold decimalValue
          simp only
          rw [hdiv, zpow_add₀ (by norm_num), zpow_one]
          ring

/-- The power of ten of the leading digit is no more than the number, so
that the digits are counted from no place too high. -/
theorem pow_leadingExponent_le {m : Nat} (hm : 0 < m) (q : Int) :
    (10 : ℚ) ^ leadingExponent m q ≤ m * 2 ^ q := by
  have hscale := zpow_mul_pow_toNat (two_ne_zero : (2 : ℚ) ≠ 0) q
  have hden : 0 < 2 ^ (-q).toNat := Nat.two_pow_pos _
  have hnum : 0 < m * 2 ^ q.toNat := Nat.mul_pos hm (Nat.two_pow_pos _)
  unfold leadingExponent
  simp only [Nat.pow_eq]
  generalize hnumber : m * 2 ^ q.toNat = num at hnum ⊢
  generalize hdenom : 2 ^ (-q).toNat = den at hden ⊢
  have hd : (0 : ℚ) < den := by exact_mod_cast hden
  have hvalue : (m : ℚ) * 2 ^ q * den = num := by
    rw [← hnumber, ← hdenom]
    push_cast
    rw [mul_assoc, hscale]
  rw [← mul_le_mul_iff_of_pos_right hd, hvalue]
  split
  case isTrue h =>
      -- from one on, the digits of the whole part tell the exponent
      have hquot : 0 < num / den := Nat.div_pos h hden
      obtain ⟨hlow, -⟩ := toDigits_bounds hquot
      have hle : 10 ^ ((Nat.toDigits 10 (num / den)).length - 1) * den
          ≤ num :=
        (Nat.mul_le_mul_right _ hlow).trans (Nat.div_mul_le_self _ _)
      have hlen : 0 < (Nat.toDigits 10 (num / den)).length :=
        List.length_pos_iff.2 Nat.toDigits_ne_nil
      rw [show ((Nat.toDigits 10 (num / den)).length : Int) - 1
        = ((Nat.toDigits 10 (num / den)).length - 1 : ℕ) by omega,
        zpow_natCast]
      exact_mod_cast hle
  case isFalse h =>
      -- below one, those of its inverse do
      have hlen : (den - 1) / num
          < 10 ^ (Nat.toDigits 10 ((den - 1) / num)).length :=
        (Nat.length_toDigits_le_iff (by decide)
          (List.length_pos_iff.2 Nat.toDigits_ne_nil)).1 (le_refl _)
      have hlt := (Nat.div_lt_iff_lt_mul hnum).1 hlen
      rw [zpow_neg, zpow_natCast, inv_mul_le_iff₀ (by positivity)]
      have hle : den
          ≤ 10 ^ (Nat.toDigits 10 ((den - 1) / num)).length * num := by
        omega
      exact_mod_cast hle

/-- The shortest decimal of a double other than a zero rounds to it: the
search does not end without an answer. -/
theorem roundsTo_shortestOf {m : Nat} {q : Int} (hm : 0 < m)
    (hlt : m < 2 ^ 53) : RoundsTo m q (decimalValue (shortestOf m q)) := by
  unfold shortestOf
  rw [if_neg hm.ne', decimalValue_stripZeros]
  refine roundsTo_search hm ⟨17, by decide, ?_⟩
  -- the seventeenth digit stands for less than half a unit
  have hlead := pow_leadingExponent_le hm q
  have hm53 : (m : ℚ) ≤ 2 ^ 53 := by exact_mod_cast hlt.le
  have hu : (0 : ℚ) < 2 ^ q := by positivity
  have hle : (10 : ℚ) ^ leadingExponent m q ≤ 2 ^ 53 * 2 ^ q :=
    hlead.trans (mul_le_mul_of_nonneg_right hm53 hu.le)
  rw [Nat.zero_add, Nat.cast_ofNat, zpow_sub₀ (by norm_num)]
  rw [two_zpow_quarters q] at hle
  have hu' : (0 : ℚ) < 2 ^ (q - 2) := by positivity
  norm_num
  norm_num at hle
  linarith

-- ============================================================== doubles

/-- Any decimal of the value of the shortest one of a finite double is
read as the double. A zero is read from zero digits, with its sign. -/
theorem ofDecimal_shortest {x : Binary64} {d : Decimal} {digits : Nat}
    {exponent : Int} (hd : x.shortest? = some d)
    (hvalue : (digits : ℚ) * 10 ^ exponent = decimalValue d) :
    ofDecimal x.negative digits exponent = x := by
  obtain ⟨⟨m, q⟩, hmagnitude, rfl⟩ := Option.map_eq_some_iff.1 hd
  rcases Nat.eq_zero_or_pos m with rfl | hm
  · have hzero : decimalValue (shortestOf 0 q) = 0 := by
      simp [shortestOf, decimalValue]
    rw [hzero] at hvalue
    have hpow : (10 : ℚ) ^ exponent ≠ 0 := by positivity
    have hdigits : digits = 0 := by
      exact_mod_cast (mul_eq_zero.1 hvalue).resolve_right hpow
    rw [hdigits]
    exact ofMagnitudeBits_of_magnitude? hmagnitude
  · have hmantissa := isMantissa_of_magnitude? hmagnitude hm
    have hround := roundsTo_shortestOf (q := q) hm hmantissa.lt
    rw [← hvalue] at hround
    rw [ofDecimal_of_roundsTo _ hmantissa hround]
    exact ofMagnitudeBits_of_magnitude? hmagnitude

end SchemaAudit.Binary64
