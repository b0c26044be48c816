import Mathlib.Algebra.Order.Field.Power
import Mathlib.Algebra.Order.Field.Rat
import Mathlib.Tactic.FieldSimp
import Mathlib.Tactic.Linarith
import Mathlib.Tactic.Positivity
import Mathlib.Tactic.Ring
import Uplink.Number.Dyadic

/-!
# Rounding to a binary fraction

A quotient is scaled by a power of two until its whole part has 53 bits, or until the exponent is the
smallest there is, and then rounded to a whole number. What matters of the result is where the
rounding crosses a power of two: a number is rounded up to it from half a unit below it on, where the
unit is that of the numbers below the power. Everything said here of particular bounds, that a number
is too large, or too long for a duration, or no more than zero, is one such crossing.

## Main definitions

- `Dyadic.value`: a binary fraction as a rational number.
- `Dyadic.Rounds`: what rounding a number to a binary fraction leaves of it.

## Main results

- `le_roundDiv_iff`, `abs_roundDiv_sub_le`: rounding to a whole number.
- `Dyadic.exponentOf_spec`: the exponent leaves 53 bits, or is the smallest.
- `Dyadic.ofRatio?_eq_none_iff`: which numbers are too large.
- `Dyadic.rounds_ofRatio?`: what is left of the others.
-/

namespace Uplink

/-! ## Whole numbers -/

variable {n d k : Nat}

/-- A power with an exponent from zero on is a natural number. -/
theorem cast_pow_toNat (b : Nat) {e : ℤ} (nonneg : 0 ≤ e) :
    ((Nat.pow b e.toNat : Nat) : ℚ) = (b : ℚ) ^ e := by
  obtain ⟨k, rfl⟩ := Int.eq_ofNat_of_zero_le nonneg
  rw [zpow_natCast, Int.toNat_natCast, Nat.pow_eq, Nat.cast_pow]

/-- A power with an exponent below zero is one part of a natural number. -/
theorem cast_pow_toNat_neg (b : Nat) {e : ℤ} (negative : ¬ 0 ≤ e) :
    ((Nat.pow b (-e).toNat : Nat) : ℚ) = ((b : ℚ) ^ e)⁻¹ := by
  rw [cast_pow_toNat b (by omega), zpow_neg]

/-- A quotient is its whole part and less than one. -/
theorem cast_div_eq (n : Nat) (pos : 0 < d) :
    (n : ℚ) / d = (n / d : Nat) + ((n % d : Nat) : ℚ) / d := by
  have whole : ((d * (n / d) + n % d : Nat) : ℚ) = n := by rw [Nat.div_add_mod]
  have nonzero : (d : ℚ) ≠ 0 := Nat.cast_ne_zero.mpr pos.ne'
  rw [← whole]
  push_cast
  field_simp

/-- A quotient is rounded to its whole part or the next number. -/
theorem roundDiv_bounds (n d : Nat) : n / d ≤ roundDiv n d ∧ roundDiv n d ≤ n / d + 1 := by
  unfold roundDiv
  dsimp only
  split
  · omega
  · split
    · omega
    · split <;> omega

/-- A quotient is rounded up if its rest is more than half, or half and the next number is even. -/
theorem lt_roundDiv_iff (n d : Nat) :
    n / d + 1 ≤ roundDiv n d ↔ d < 2 * (n % d) ∨ d = 2 * (n % d) ∧ (n / d + 1) % 2 = 0 := by
  unfold roundDiv
  dsimp only
  split
  · omega
  · split
    · omega
    · split <;> omega

/-- A quotient is rounded to a number or above it from half below that number on; in the middle only
if it is even. -/
theorem le_roundDiv_iff (pos : 0 < d) :
    k ≤ roundDiv n d ↔ (k : ℚ) - 1 / 2 < n / d ∨ (k : ℚ) - 1 / 2 = n / d ∧ k % 2 = 0 := by
  have positive : (0 : ℚ) < d := Nat.cast_pos.mpr pos
  have nonneg : 0 ≤ ((n % d : Nat) : ℚ) / d := by positivity
  have small : ((n % d : Nat) : ℚ) / d < 1 := by
    rw [div_lt_one positive]
    exact_mod_cast Nat.mod_lt n pos
  obtain ⟨least, most⟩ := roundDiv_bounds n d
  rw [cast_div_eq n pos]
  -- only for the number after the whole part does the rest matter
  rcases Nat.lt_trichotomy k (n / d + 1) with less | next | more
  · have cast : (k : ℚ) ≤ (n / d : Nat) := by exact_mod_cast Nat.le_of_lt_succ less
    exact iff_of_true (by omega) (.inl (by linarith))
  · have above : d < 2 * (n % d) ↔ 1 / 2 < ((n % d : Nat) : ℚ) / d := by
      rw [div_lt_div_iff₀ two_pos positive, one_mul, mul_comm _ (2 : ℚ)]
      exact_mod_cast Iff.rfl
    have middle : d = 2 * (n % d) ↔ 1 / 2 = ((n % d : Nat) : ℚ) / d := by
      rw [div_eq_div_iff two_ne_zero positive.ne', one_mul, mul_comm _ (2 : ℚ)]
      exact_mod_cast Iff.rfl
    have half : (k : ℚ) - 1 / 2 = (n / d : Nat) + 1 / 2 := by
      rw [next]
      push_cast
      ring
    rw [half, add_lt_add_iff_left, add_right_inj, ← above, ← middle, next]
    exact lt_roundDiv_iff n d
  · have cast : ((n / d : Nat) : ℚ) + 2 ≤ k := by exact_mod_cast more
    refine iff_of_false (by omega) ?_
    rintro (lt | ⟨same, -⟩)
    · linarith
    · linarith

/-- A rounded quotient is off by half at most. -/
theorem abs_roundDiv_sub_le (pos : 0 < d) : |(roundDiv n d : ℚ) - n / d| ≤ 1 / 2 := by
  have lower := (le_roundDiv_iff (n := n) pos).mp (Nat.le_refl _)
  have upper := (le_roundDiv_iff (n := n) pos).not.mp (Nat.not_succ_le_self (roundDiv n d))
  rw [not_or, not_lt] at upper
  have most := upper.1
  push_cast at most
  rw [abs_le]
  refine ⟨by linarith, ?_⟩
  rcases lower with lt | ⟨same, -⟩
  · linarith
  · linarith

namespace Dyadic

/-! ## Exponents -/

/-- A binary fraction as a rational number. -/
def value (x : Dyadic) : ℚ := x.mantissa * 2 ^ x.exponent

theorem two_zpow_pos (e : ℤ) : (0 : ℚ) < 2 ^ e := zpow_pos two_pos e

theorem two_zpow_le {e f : ℤ} (le : e ≤ f) : (2 : ℚ) ^ e ≤ 2 ^ f :=
  zpow_le_zpow_right₀ one_le_two le

theorem two_zpow_add (e f : ℤ) : (2 : ℚ) ^ (e + f) = 2 ^ e * 2 ^ f := zpow_add₀ two_ne_zero e f

theorem two_zpow_eq_double (k : ℤ) : (2 : ℚ) ^ k = 2 * 2 ^ (k - 1) := by
  rw [← zpow_one_add₀ two_ne_zero, add_sub_cancel]

/-- Powers of two are apart by more than half a unit. -/
theorem two_zpow_le_sub {j k : ℤ} (less : j < k) : (2 : ℚ) ^ j ≤ 2 ^ k - 2 ^ (k - 54) := by
  have lower : (2 : ℚ) ^ j ≤ 2 ^ (k - 1) := two_zpow_le (Int.le_sub_one_of_lt less)
  have half : (2 : ℚ) ^ (k - 54) ≤ 2 ^ (k - 1) := two_zpow_le (by omega)
  have double := two_zpow_eq_double k
  linarith

/-- Scaling divides by a power of two. -/
theorem rescale_spec (n : Nat) (pos : 0 < d) (e : ℤ) :
    0 < (rescale n d e).2 ∧
      ((rescale n d e).1 : ℚ) / (rescale n d e).2 = (n : ℚ) / d / 2 ^ e := by
  unfold rescale
  split
  next nonneg =>
    refine ⟨Nat.mul_pos pos (Nat.pow_pos two_pos), ?_⟩
    rw [Nat.cast_mul, cast_pow_toNat 2 nonneg, Nat.cast_ofNat, div_div]
  next negative =>
    refine ⟨pos, ?_⟩
    rw [Nat.cast_mul, cast_pow_toNat_neg 2 negative, Nat.cast_ofNat, ← div_eq_mul_inv,
      div_right_comm]

/-- A number lies between two powers of two. -/
theorem log2_spec (some : n ≠ 0) :
    (2 : ℚ) ^ (n.log2 : ℤ) ≤ n ∧ (n : ℚ) < 2 ^ ((n.log2 : ℤ) + 1) := by
  constructor
  · rw [zpow_natCast]
    exact_mod_cast Nat.log2_self_le some
  · have next : ((n.log2 : ℤ) + 1) = ((n.log2 + 1 : Nat) : ℤ) := rfl
    rw [next, zpow_natCast]
    exact_mod_cast Nat.lt_log2_self

/-- A quotient lies between two powers of two that are told from the bits of its parts. -/
theorem quotient_bounds (some : n ≠ 0) (pos : 0 < d) :
    (2 : ℚ) ^ ((n.log2 : ℤ) - d.log2 - 1) ≤ (n : ℚ) / d ∧
      (n : ℚ) / d < 2 ^ ((n.log2 : ℤ) - d.log2 + 1) := by
  obtain ⟨n_lower, n_upper⟩ := log2_spec some
  obtain ⟨d_lower, d_upper⟩ := log2_spec pos.ne'
  have positive : (0 : ℚ) < d := Nat.cast_pos.mpr pos
  constructor
  · rw [le_div_iff₀ positive]
    calc (2 : ℚ) ^ ((n.log2 : ℤ) - d.log2 - 1) * d
        ≤ 2 ^ ((n.log2 : ℤ) - d.log2 - 1) * 2 ^ ((d.log2 : ℤ) + 1) := by gcongr
      _ = 2 ^ (n.log2 : ℤ) := by
        rw [← two_zpow_add]
        congr 1
        omega
      _ ≤ n := n_lower
  · rw [div_lt_iff₀ positive]
    calc (n : ℚ) < 2 ^ ((n.log2 : ℤ) + 1) := n_upper
      _ = 2 ^ ((n.log2 : ℤ) - d.log2 + 1) * 2 ^ (d.log2 : ℤ) := by
        rw [← two_zpow_add]
        congr 1
        omega
      _ ≤ 2 ^ ((n.log2 : ℤ) - d.log2 + 1) * d := by gcongr

/-- Whether a scaled quotient has fewer bits than a mantissa. -/
theorem rescale_lt_iff (n : Nat) (pos : 0 < d) (e : ℤ) :
    (rescale n d e).1 < (rescale n d e).2 * Nat.pow 2 (precision - 1) ↔
      (n : ℚ) / d < 2 ^ (52 + e) := by
  obtain ⟨positive, value⟩ := rescale_spec n pos e
  have cast : (0 : ℚ) < (rescale n d e).2 := Nat.cast_pos.mpr positive
  rw [two_zpow_add, ← div_lt_iff₀ (two_zpow_pos e), ← value, div_lt_iff₀ cast, mul_comm]
  exact_mod_cast Iff.rfl

/-- The exponent is the smallest there is or leaves 53 bits, and never more. -/
theorem exponentOf_spec (some : n ≠ 0) (pos : 0 < d) :
    minExponent ≤ exponentOf n d ∧ (n : ℚ) / d < 2 ^ (53 + exponentOf n d) ∧
      (exponentOf n d = minExponent ∨ 2 ^ (52 + exponentOf n d) ≤ (n : ℚ) / d) := by
  obtain ⟨guess, guessed⟩ : ∃ guess : ℤ, guess = n.log2 - d.log2 - (precision - 1 : ℤ) := ⟨_, rfl⟩
  have digits : (n.log2 : ℤ) - d.log2 = 52 + guess := by
    rw [guessed]
    exact (add_sub_cancel 52 _).symm
  obtain ⟨least, most⟩ := quotient_bounds some pos
  rw [digits] at least most
  -- the first guess is right or too large by one
  obtain ⟨best, chosen, lower, upper⟩ : ∃ best, exponentOf n d = max minExponent best ∧
      2 ^ (52 + best) ≤ (n : ℚ) / d ∧ (n : ℚ) / d < 2 ^ (53 + best) := by
    rw [exponentOf, ← guessed]
    simp only [rescale_lt_iff n pos]
    split
    next less =>
      have same : 53 + (guess - 1) = 52 + guess := by omega
      exact ⟨guess - 1, rfl, add_sub_assoc 52 guess 1 ▸ least, same ▸ less⟩
    next enough =>
      have same : 53 + guess = 52 + guess + 1 := by omega
      exact ⟨guess, rfl, not_lt.mp enough, same ▸ most⟩
  rw [chosen]
  refine ⟨le_max_left _ _, lt_of_lt_of_le upper (two_zpow_le ?_), ?_⟩
  · have := le_max_right minExponent best
    omega
  · rcases le_total best minExponent with small | large
    · exact .inl (max_eq_left small)
    · rw [max_eq_right large]
      exact .inr lower

/-! ## Rounding -/

/-- What rounding a number to a binary fraction leaves of it. It reaches a power of two exactly if
the number was no further below it than half a unit; it is zero if the number was at most half the
smallest binary fraction; and it is not far off. -/
structure Rounds (v : ℚ) (x : Dyadic) : Prop where
  fits : x.mantissa ≤ 2 ^ 53
  reaches : ∀ k : ℤ, -1021 ≤ k → (2 ^ k ≤ x.value ↔ (2 : ℚ) ^ k - 2 ^ (k - 54) ≤ v)
  vanishes : x.mantissa = 0 ↔ v ≤ 2 ^ (-1075 : ℤ)
  near : |x.value - v| ≤ v / 2 ^ 53 + 2 ^ (-1075 : ℤ)

/-- The binary fraction that a quotient is rounded to, be it too large or not. -/
def rounded (n d : Nat) : Dyadic :=
  let e := exponentOf n d
  ⟨roundDiv (rescale n d e).1 (rescale n d e).2, e⟩

/-- A scaled quotient is rounded to a number or above it from half below it on. -/
theorem le_rounded_iff (pos : 0 < d) (even : k % 2 = 0) :
    k ≤ (rounded n d).mantissa ↔
      ((k : ℚ) - 1 / 2) * 2 ^ exponentOf n d ≤ (n : ℚ) / d := by
  obtain ⟨positive, value⟩ := rescale_spec n pos (exponentOf n d)
  show k ≤ roundDiv _ _ ↔ _
  rw [le_roundDiv_iff positive, value, ← le_div_iff₀ (two_zpow_pos _), le_iff_lt_or_eq,
    and_iff_left even]

theorem abs_rounded_sub_le (n : Nat) (pos : 0 < d) :
    |((rounded n d).mantissa : ℚ) - n / d / 2 ^ exponentOf n d| ≤ 1 / 2 := by
  obtain ⟨positive, value⟩ := rescale_spec n pos (exponentOf n d)
  have near := abs_roundDiv_sub_le (n := (rescale n d (exponentOf n d)).1) positive
  rwa [value] at near

/-- The mantissa has 53 bits, or one more if it is a power of two; it has less only if the exponent
is the smallest. -/
theorem rounded_bounds (some : n ≠ 0) (pos : 0 < d) :
    (rounded n d).mantissa ≤ 2 ^ 53 ∧
      (exponentOf n d = minExponent ∨ 2 ^ 52 ≤ (rounded n d).mantissa) := by
  obtain ⟨-, upper, lower⟩ := exponentOf_spec some pos
  have unit := two_zpow_pos (exponentOf n d)
  rw [two_zpow_add] at upper lower
  constructor
  · have near := (abs_le.mp (abs_rounded_sub_le n pos)).2
    have scaled := (div_lt_iff₀ unit).mpr upper
    have below : ((rounded n d).mantissa : ℚ) < (2 ^ 53 + 1 : Nat) := by
      push_cast
      have same : (2 : ℚ) ^ (53 : ℤ) = 2 ^ 53 := zpow_natCast 2 53
      linarith
    exact Nat.le_of_lt_succ (Nat.cast_lt.mp below)
  · refine lower.imp_right fun enough => ?_
    rw [le_rounded_iff pos (by norm_num)]
    refine le_trans ?_ enough
    push_cast
    gcongr
    norm_num

/-- Half a unit is the smallest half, or one part in `2 ^ 53` of the number at most. -/
theorem half_unit_le (some : n ≠ 0) (pos : 0 < d) :
    (2 : ℚ) ^ exponentOf n d / 2 ≤ (n : ℚ) / d / 2 ^ 53 + 2 ^ (-1075 : ℤ) := by
  obtain ⟨-, -, smallest | enough⟩ := exponentOf_spec some pos
  · rw [smallest]
    have half : (2 : ℚ) ^ minExponent / 2 = 2 ^ (-1075 : ℤ) := by
      rw [div_eq_mul_inv, ← zpow_neg_one, ← two_zpow_add]
      rfl
    rw [half]
    exact le_add_of_nonneg_left (by positivity)
  · rw [two_zpow_add] at enough
    have same : (2 : ℚ) ^ (52 : ℤ) = 2 ^ 52 := zpow_natCast 2 52
    rw [same] at enough
    have scaled : (2 : ℚ) ^ exponentOf n d / 2 ≤ (n : ℚ) / d / 2 ^ 53 := by
      rw [le_div_iff₀ (by positivity)]
      linarith
    exact le_add_of_le_of_nonneg scaled (two_zpow_pos _).le

/-- A power of two is reached from half a unit of the numbers below it on. -/
theorem reaches_rounded (some : n ≠ 0) (pos : 0 < d) {k : ℤ} (normal : -1021 ≤ k) :
    2 ^ k ≤ (rounded n d).value ↔ (2 : ℚ) ^ k - 2 ^ (k - 54) ≤ (n : ℚ) / d := by
  obtain ⟨smallest, upper, lower⟩ := exponentOf_spec some pos
  obtain ⟨few, many⟩ := rounded_bounds some pos
  have value : (rounded n d).value = (rounded n d).mantissa * 2 ^ exponentOf n d := rfl
  rw [value]
  rcases lt_trichotomy (53 + exponentOf n d) k with less | same | more
  · -- the number and what it is rounded to both stay at a lower power
    refine iff_of_false (not_le.mpr ?_) (not_le.mpr (upper.trans_le (two_zpow_le_sub less)))
    · calc ((rounded n d).mantissa : ℚ) * 2 ^ exponentOf n d
          ≤ 2 ^ 53 * 2 ^ exponentOf n d := by gcongr; exact_mod_cast few
        _ = 2 ^ (53 + exponentOf n d) := by rw [two_zpow_add]; rfl
        _ < 2 ^ k := zpow_lt_zpow_right₀ one_lt_two less
  · -- the power is the one that the mantissa reaches with its last carry
    have power : (2 : ℚ) ^ k = (2 ^ 53 : Nat) * 2 ^ exponentOf n d := by
      rw [← same, two_zpow_add]
      push_cast
      rfl
    have halfUnit : (2 : ℚ) ^ (k - 54) = 1 / 2 * 2 ^ exponentOf n d := by
      rw [one_div, ← zpow_neg_one, ← two_zpow_add]
      congr 1
      omega
    rw [halfUnit, power, ← sub_mul, mul_le_mul_iff_left₀ (two_zpow_pos _), Nat.cast_le,
      le_rounded_iff pos (by norm_num)]
  · -- the number is beyond the power, and has all its bits
    have normalized : exponentOf n d ≠ minExponent := by
      intro least
      rw [least] at more
      exact absurd more (by simp only [minExponent]; omega)
    have enough := lower.resolve_left normalized
    have filled := many.resolve_left normalized
    have beyond : (2 : ℚ) ^ k ≤ 2 ^ (52 + exponentOf n d) := two_zpow_le (by omega)
    refine iff_of_true ?_ ?_
    · calc (2 : ℚ) ^ k ≤ 2 ^ (52 + exponentOf n d) := beyond
        _ = 2 ^ 52 * 2 ^ exponentOf n d := by rw [two_zpow_add]; rfl
        _ ≤ (rounded n d).mantissa * 2 ^ exponentOf n d := by gcongr; exact_mod_cast filled
    · linarith [two_zpow_pos (k - 54)]

/-- Only what is at most half of the smallest binary fraction is rounded to zero. -/
theorem mantissa_rounded_eq_zero_iff (some : n ≠ 0) (pos : 0 < d) :
    (rounded n d).mantissa = 0 ↔ (n : ℚ) / d ≤ 2 ^ (-1075 : ℤ) := by
  obtain ⟨smallest, upper, lower⟩ := exponentOf_spec some pos
  obtain ⟨few, many⟩ := rounded_bounds some pos
  by_cases least : exponentOf n d = minExponent
  · obtain ⟨positive, value⟩ := rescale_spec n pos (exponentOf n d)
    have one : 1 ≤ (rounded n d).mantissa ↔ 2 ^ (-1075 : ℤ) < (n : ℚ) / d := by
      have half : (2 : ℚ) ^ (-1075 : ℤ) = ((1 : Nat) - 1 / 2) * 2 ^ minExponent := by
        have whole : ((1 : Nat) : ℚ) - 1 / 2 = 2 ^ (-1 : ℤ) := by norm_num
        rw [whole, ← two_zpow_add]
        rfl
      show 1 ≤ roundDiv _ _ ↔ _
      rw [le_roundDiv_iff positive, value, least, half, ← lt_div_iff₀ (two_zpow_pos _)]
      exact or_iff_left fun odd => absurd odd.2 (by decide)
    rw [← not_lt, ← one]
    omega
  · have enough := lower.resolve_left least
    have filled := many.resolve_left least
    refine iff_of_false (fun none => ?_) (not_le.mpr (lt_of_lt_of_le ?_ enough))
    · rw [none] at filled
      exact absurd filled (by norm_num)
    · exact zpow_lt_zpow_right₀ one_lt_two (by simp only [minExponent] at smallest; omega)

theorem rounds_rounded (some : n ≠ 0) (pos : 0 < d) : Rounds ((n : ℚ) / d) (rounded n d) := by
  have unit := two_zpow_pos (exponentOf n d)
  refine ⟨(rounded_bounds some pos).1, fun k => reaches_rounded some pos,
    mantissa_rounded_eq_zero_iff some pos, ?_⟩
  have error : (rounded n d).value - (n : ℚ) / d =
      ((rounded n d).mantissa - (n : ℚ) / d / 2 ^ exponentOf n d) * 2 ^ exponentOf n d := by
    rw [sub_mul, div_mul_cancel₀ _ unit.ne']
    rfl
  calc |(rounded n d).value - (n : ℚ) / d|
      ≤ 1 / 2 * 2 ^ exponentOf n d := by
        rw [error, abs_mul, abs_of_pos unit]
        exact mul_le_mul_of_nonneg_right (abs_rounded_sub_le n pos) unit.le
    _ = 2 ^ exponentOf n d / 2 := by ring
    _ ≤ (n : ℚ) / d / 2 ^ 53 + 2 ^ (-1075 : ℤ) := half_unit_le some pos

/-- What is rounded to zero is not what reaches a power of two. -/
theorem underflow_lt {k : ℤ} (normal : -1021 ≤ k) :
    (2 : ℚ) ^ (-1075 : ℤ) < 2 ^ k - 2 ^ (k - 54) := by
  calc (2 : ℚ) ^ (-1075 : ℤ) < 2 ^ (k - 1) := zpow_lt_zpow_right₀ one_lt_two (by omega)
    _ ≤ 2 ^ k - 2 ^ (k - 54) := two_zpow_le_sub (by omega)

/-- Whatever is at most half of the smallest binary fraction may be taken for zero. -/
theorem rounds_zero {v : ℚ} (nonneg : 0 ≤ v) (small : v ≤ 2 ^ (-1075 : ℤ)) : Rounds v zero := by
  have none : zero.value = 0 := by
    show ((0 : Nat) : ℚ) * 2 ^ (0 : ℤ) = 0
    norm_num
  refine ⟨Nat.zero_le _, fun k low => ?_, iff_of_true rfl small, ?_⟩
  · rw [none]
    exact iff_of_false (not_le.mpr (two_zpow_pos k))
      (not_le.mpr (lt_of_le_of_lt small (underflow_lt low)))
  · rw [none, zero_sub, abs_neg, abs_of_nonneg nonneg]
    exact le_add_of_nonneg_of_le (by positivity) small

/-- Between a power of two and the last number of 53 bits below it there is none. -/
theorem value_le_of_lt {x : Dyadic} {k : ℤ} (fits : x.mantissa ≤ 2 ^ 53)
    (below : x.value < 2 ^ k) : x.value ≤ 2 ^ k - 2 ^ (k - 53) := by
  rcases le_or_gt (k - 53) x.exponent with coarse | fine
  · -- the number is a multiple of the unit below the power, and so is the power
    obtain ⟨j, shift⟩ := Int.eq_ofNat_of_zero_le (sub_nonneg.mpr coarse)
    have unit := two_zpow_pos (k - 53)
    have multiple : x.value = (x.mantissa * 2 ^ j : Nat) * 2 ^ (k - 53) := by
      rw [value, eq_add_of_sub_eq shift, two_zpow_add, zpow_natCast]
      push_cast
      ring
    have power : (2 : ℚ) ^ k = (2 ^ 53 : Nat) * 2 ^ (k - 53) := by
      rw [← add_sub_cancel 53 k, two_zpow_add, add_sub_cancel]
      push_cast
      rfl
    rw [multiple, power, mul_lt_mul_iff_left₀ unit, Nat.cast_lt] at below
    rw [multiple, power, le_sub_iff_add_le, ← add_one_mul, mul_le_mul_iff_left₀ unit]
    exact_mod_cast below
  · -- the number is at most half of the power
    have half : (2 : ℚ) ^ (k - 53) ≤ 2 ^ (k - 1) := two_zpow_le (by omega)
    have double := two_zpow_eq_double k
    calc x.value ≤ 2 ^ (53 : ℤ) * 2 ^ (k - 54) := by
          rw [value]
          have short : (x.mantissa : ℚ) ≤ 2 ^ (53 : ℤ) := by exact_mod_cast fits
          have less : (2 : ℚ) ^ x.exponent ≤ 2 ^ (k - 54) := two_zpow_le (by omega)
          gcongr
      _ = 2 ^ (k - 1) := by
        rw [← two_zpow_add]
        congr 1
        omega
      _ ≤ 2 ^ k - 2 ^ (k - 53) := by linarith

/-! ## Quotients -/

/-- A binary fraction is beyond a power of two if its bits are. -/
theorem two_zpow_le_value_iff {x : Dyadic} (some : x.mantissa ≠ 0) (k : ℤ) :
    2 ^ k ≤ x.value ↔ k ≤ x.mantissa.log2 + x.exponent := by
  obtain ⟨lower, upper⟩ := log2_spec some
  have unit := two_zpow_pos x.exponent
  constructor
  · intro beyond
    refine not_lt.mp fun short => ?_
    have bound : x.value < 2 ^ ((x.mantissa.log2 : ℤ) + 1 + x.exponent) := by
      rw [two_zpow_add, value]
      gcongr
    have least : (2 : ℚ) ^ ((x.mantissa.log2 : ℤ) + 1 + x.exponent) ≤ 2 ^ k :=
      two_zpow_le (by omega)
    linarith
  · intro long
    calc (2 : ℚ) ^ k ≤ 2 ^ (x.mantissa.log2 + x.exponent) := two_zpow_le long
      _ = 2 ^ (x.mantissa.log2 : ℤ) * 2 ^ x.exponent := two_zpow_add _ _
      _ ≤ x.value := by
        rw [value]
        gcongr

/-- A quotient that is not zero is scaled and rounded. -/
theorem ofRatio?_of_rescale {a b : Nat} {e : ℤ} (some : n ≠ 0) (best : exponentOf n d = e)
    (scaled : rescale n d e = (a, b)) :
    ofRatio? n d =
      if (limit : ℤ) ≤ ((roundDiv a b).log2 : ℤ) + e then none
      else Option.some ⟨roundDiv a b, e⟩ := by
  unfold ofRatio?
  rw [if_neg some, best]
  simp only [scaled]

theorem ofRatio?_of_ne_zero (some : n ≠ 0) (pos : 0 < d) :
    ofRatio? n d =
      if 2 ^ (1024 : ℤ) ≤ (rounded n d).value then none else Option.some (rounded n d) := by
  obtain ⟨-, many⟩ := rounded_bounds some pos
  have beyond : (limit : ℤ) ≤ ((rounded n d).mantissa.log2 : ℤ) + exponentOf n d ↔
      2 ^ (1024 : ℤ) ≤ (rounded n d).value := by
    by_cases none : (rounded n d).mantissa = 0
    · have zero : (rounded n d).value = 0 := by
        rw [value, none, Nat.cast_zero, zero_mul]
      have least : exponentOf n d = minExponent := by
        refine many.resolve_right fun filled => ?_
        rw [none] at filled
        exact absurd filled (by norm_num)
      rw [none, zero, least]
      exact iff_of_false (by decide) (not_le.mpr (two_zpow_pos _))
    · exact (two_zpow_le_value_iff none 1024).symm
  rw [ofRatio?_of_rescale some rfl (Prod.eta _).symm]
  exact if_congr beyond rfl rfl

/-- A quotient is too large from half a unit below `2 ^ 1024` on. -/
theorem ofRatio?_eq_none_iff (n : Nat) (pos : 0 < d) :
    ofRatio? n d = none ↔ (2 : ℚ) ^ (1024 : ℤ) - 2 ^ (970 : ℤ) ≤ (n : ℚ) / d := by
  by_cases none : n = 0
  · subst none
    rw [Nat.cast_zero, zero_div]
    refine iff_of_false nofun (not_le.mpr ?_)
    exact sub_pos.mpr (zpow_lt_zpow_right₀ one_lt_two (by norm_num))
  · have reaches := reaches_rounded none pos (k := 1024) (by norm_num)
    rw [ofRatio?_of_ne_zero none pos]
    split
    next large => exact iff_of_true rfl (reaches.mp large)
    next fits => exact iff_of_false nofun (reaches.not.mp fits)

/-- A quotient that is not too large is rounded. -/
theorem rounds_ofRatio? {x : Dyadic} (pos : 0 < d) (found : ofRatio? n d = some x) :
    Rounds ((n : ℚ) / d) x := by
  by_cases none : n = 0
  · subst none
    obtain rfl : zero = x := Option.some.inj found
    rw [Nat.cast_zero, zero_div]
    exact rounds_zero (le_refl 0) (two_zpow_pos _).le
  · rw [ofRatio?_of_ne_zero none pos] at found
    split at found
    · cases found
    · obtain rfl := Option.some.inj found
      exact rounds_rounded none pos

/-! ## Multiples -/

/-- A binary fraction is the quotient that it is taken for. -/
theorem toRatio_spec (x : Dyadic) :
    0 < x.toRatio.2 ∧ (x.toRatio.1 : ℚ) / x.toRatio.2 = x.value := by
  unfold toRatio value
  split
  next nonneg =>
    refine ⟨one_pos, ?_⟩
    rw [Nat.cast_mul, cast_pow_toNat 2 nonneg, Nat.cast_ofNat, Nat.cast_one, div_one]
  next negative =>
    refine ⟨Nat.pow_pos two_pos, ?_⟩
    rw [cast_pow_toNat_neg 2 negative, Nat.cast_ofNat, div_inv_eq_mul]

/-- A multiple is off by half at most. -/
theorem abs_scaled_sub_le (x : Dyadic) (factor : Nat) :
    |(x.scaled factor : ℚ) - factor * x.value| ≤ 1 / 2 := by
  obtain ⟨positive, same⟩ := x.toRatio_spec
  have near := abs_roundDiv_sub_le (n := x.toRatio.1 * factor) positive
  rw [Nat.cast_mul, mul_div_right_comm, same, mul_comm x.value] at near
  exact near

end Dyadic

end Uplink
