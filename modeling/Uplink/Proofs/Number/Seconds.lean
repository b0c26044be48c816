import Uplink.Number.Seconds
import Uplink.Proofs.Number.Decimal

/-!
# Which numbers of seconds are durations

A number of seconds is rounded twice, to a binary fraction and to nanoseconds, and it is after the
first rounding that it is compared with zero and with the longest duration. So the limits for what
is written are not those of a duration but half a unit beside them: a number below zero may still
be taken for zero, and one below `2 ^ 64` may not fit.

## Main definitions

- `Seconds.Fits`, `Seconds.Overflows`: numbers that are durations, and finite ones that are too long.
- `Seconds.Approximates`: a duration is a number of seconds but for the rounding.
- `Seconds.Reads`: what a text may be read as, by the number that it spells.

## Main results

- `Seconds.reads`: every text is read as what it spells.
-/

namespace Uplink.Seconds

open Decimal (Spells)

variable {text : String} {x : Decimal} {y : Dyadic} {d : Duration} {v : ℚ}

/-- A number of seconds fits if the binary fraction nearest to it is zero, or is not negative and
below `2 ^ 64`. Just below that power fractions are `2 ^ 11` apart, so half of it decides; and half
of the smallest fraction, `2 ^ (-1075)`, is still taken for zero. -/
inductive Fits (x : Decimal) : Prop
  | nonneg (sign : x.negative = false)
      (few : x.magnitude < (2 : ℚ) ^ (64 : ℤ) - 2 ^ (10 : ℤ))
  | underflow (sign : x.negative = true) (little : x.magnitude ≤ (2 : ℚ) ^ (-1075 : ℤ))

/-- A number of seconds overflows if the binary fraction nearest to it exists, but is `2 ^ 64` or
more. -/
structure Overflows (x : Decimal) : Prop where
  sign : x.negative = false
  many : (2 : ℚ) ^ (64 : ℤ) - 2 ^ (10 : ℤ) ≤ x.magnitude
  finite : x.magnitude < (2 : ℚ) ^ (1024 : ℤ) - 2 ^ (970 : ℤ)

/-- A duration is no longer than the longest, and is a number of seconds but for two roundings. -/
structure Approximates (d : Duration) (v : ℚ) : Prop where
  holds : d.nanos ≤ Duration.longest.nanos
  near : |(d.nanos : ℚ) - Duration.nanosPerSecond * v| ≤
    1 / 2 + Duration.nanosPerSecond * (v / 2 ^ 53 + 2 ^ (-1075 : ℤ))

/-! ## Durations of binary fractions -/

/-- Only what is below `2 ^ 64` seconds is a duration. -/
theorem ofDyadic?_eq (y : Dyadic) :
    ofDyadic? y =
      if y.value < 2 ^ (64 : ℤ) then some ⟨y.scaled Duration.nanosPerSecond⟩ else none := by
  obtain ⟨positive, same⟩ := y.toRatio_spec
  rcases ratio : y.toRatio with ⟨n, d⟩
  rw [ratio] at positive same
  have below : n < UInt64.size * d ↔ y.value < 2 ^ (64 : ℤ) := by
    have cast : (0 : ℚ) < d := Nat.cast_pos.mpr positive
    rw [← same, div_lt_iff₀ cast]
    exact_mod_cast Iff.rfl
  simp only [ofDyadic?, ratio, below]

/-- A binary fraction below `2 ^ 64` is so far below it that its nanoseconds are too. -/
theorem scaled_le_longest (fits : y.mantissa ≤ 2 ^ 53) (below : y.value < 2 ^ (64 : ℤ)) :
    y.scaled Duration.nanosPerSecond ≤ Duration.longest.nanos := by
  have gap := Dyadic.value_le_of_lt fits below
  have off := (abs_le.mp (y.abs_scaled_sub_le Duration.nanosPerSecond)).2
  have bound : ((y.scaled Duration.nanosPerSecond + 1 : Nat) : ℚ) ≤
      (UInt64.size * Duration.nanosPerSecond : Nat) := by
    norm_num [Duration.nanosPerSecond, UInt64.size] at gap off ⊢
    linarith
  exact Nat.le_sub_one_of_lt (Nat.cast_le.mp bound)

theorem approximates_scaled (rounds : Dyadic.Rounds v y) (below : y.value < 2 ^ (64 : ℤ)) :
    Approximates ⟨y.scaled Duration.nanosPerSecond⟩ v := by
  refine ⟨scaled_le_longest rounds.fits below, ?_⟩
  have pos : (0 : ℚ) ≤ Duration.nanosPerSecond := Nat.cast_nonneg _
  calc |(y.scaled Duration.nanosPerSecond : ℚ) - Duration.nanosPerSecond * v|
      ≤ |(y.scaled Duration.nanosPerSecond : ℚ) - Duration.nanosPerSecond * y.value| +
          |Duration.nanosPerSecond * y.value - Duration.nanosPerSecond * v| := abs_sub_le _ _ _
    _ ≤ 1 / 2 + Duration.nanosPerSecond * (v / 2 ^ 53 + 2 ^ (-1075 : ℤ)) := by
      rw [← mul_sub, abs_mul, abs_of_nonneg pos]
      exact add_le_add (y.abs_scaled_sub_le _) (mul_le_mul_of_nonneg_left rounds.near pos)

/-! ## Durations of numbers -/

/-- A number that is too large for a binary fraction does not fit. -/
theorem not_fits_of_large (large : (2 : ℚ) ^ (1024 : ℤ) - 2 ^ (970 : ℤ) ≤ x.magnitude) :
    ¬ Fits x := by
  rintro (⟨-, few⟩ | ⟨-, little⟩)
  · have less := sub_lt_self ((2 : ℚ) ^ (64 : ℤ)) (Dyadic.two_zpow_pos 10)
    have beyond := Dyadic.two_zpow_le_sub (j := 64) (k := 1024) (by norm_num)
    exact absurd (large.trans_lt (few.trans less)) (not_lt.mpr beyond)
  · exact absurd (large.trans little) (not_le.mpr (Dyadic.underflow_lt (by norm_num)))

theorem Overflows.not_fits (excess : Overflows x) : ¬ Fits x := by
  rintro (⟨-, few⟩ | ⟨sign, -⟩)
  · exact not_lt.mpr excess.many few
  · exact Bool.noConfusion (excess.sign.symm.trans sign)

/-! ## Reading -/

/-- What a text may be read as, by the number that it spells. -/
inductive Reads (text : String) : Except ReadError Duration → Prop
  | fits {x : Decimal} {d : Duration} (spells : Spells x text.toList) (fits : Fits x)
      (near : Approximates d x.magnitude) : Reads text (.ok d)
  | overflows {x : Decimal} (spells : Spells x text.toList) (excess : Overflows x) :
      Reads text (.error .tooLong)
  | neither (refused : ∀ x, Spells x text.toList → ¬ Fits x ∧ ¬ Overflows x) :
      Reads text (.error (.invalid text))

theorem Reads.of_spells (spells : Spells x text.toList) (fits : ¬ Fits x)
    (excess : ¬ Overflows x) : Reads text (.error (.invalid text)) := by
  refine .neither fun y spells' => ?_
  obtain rfl := spells.unique spells'
  exact ⟨fits, excess⟩

/-- Every text is read as what it spells. -/
theorem reads (text : String) : Reads text (read text) := by
  unfold read
  rcases spelled : Decimal.read? text.toList with _ | x
  · refine .neither fun x spells => ?_
    rw [Decimal.read?_eq_some_iff.mpr spells] at spelled
    cases spelled
  have spells := Decimal.read?_eq_some_iff.mp spelled
  dsimp only
  rcases nearest : x.toDyadic? with _ | y
  · have large := Decimal.toDyadic?_eq_none_iff.mp nearest
    exact .of_spells spells (not_fits_of_large large) fun excess => not_le.mpr excess.finite large
  have rounds := Decimal.rounds_toDyadic? nearest
  have finite : ¬ (2 : ℚ) ^ (1024 : ℤ) - 2 ^ (970 : ℤ) ≤ x.magnitude := by
    rw [← Decimal.toDyadic?_eq_none_iff, nearest]
    exact nofun
  have reaches := rounds.reaches 64 (by norm_num)
  dsimp only
  rw [ofDyadic?_eq]
  by_cases sign : x.negative = true
  · by_cases zero : y.mantissa = 0
    · have little := rounds.vanishes.mp zero
      have none : y.value = 0 := by
        rw [Dyadic.value, zero, Nat.cast_zero, zero_mul]
      have below : y.value < 2 ^ (64 : ℤ) := none ▸ Dyadic.two_zpow_pos 64
      rw [if_neg fun both => both.2 zero, if_pos below]
      exact .fits spells (.underflow sign little) (approximates_scaled rounds below)
    · rw [if_pos ⟨sign, zero⟩]
      refine .of_spells spells ?_ fun excess => Bool.noConfusion (excess.sign.symm.trans sign)
      rintro (⟨plus, -⟩ | ⟨-, little⟩)
      · exact Bool.noConfusion (plus.symm.trans sign)
      · exact zero (rounds.vanishes.mpr little)
  · rw [if_neg fun both => sign both.1]
    have plus := Bool.eq_false_of_not_eq_true sign
    by_cases below : y.value < 2 ^ (64 : ℤ)
    · rw [if_pos below]
      have few := not_le.mp (reaches.not.mp (not_le.mpr below))
      exact .fits spells (.nonneg plus few) (approximates_scaled rounds below)
    · rw [if_neg below]
      exact .overflows spells ⟨plus, reaches.mp (not_lt.mp below), not_le.mp finite⟩

end Uplink.Seconds
