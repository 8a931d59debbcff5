import Triage.Proofs.Number.Nearest
import Triage.Retry.Strategy

/-!
# The range of the jitter

The jitter takes its percentage of the capped delay in two rounded operations, and the share
of the attempt in a third.  Below `2^46` milliseconds each rounding moves its operand by at
most a 256th of a millisecond, and two of them leave less than the hundredth that separates
the exact percentage from the next whole millisecond.  So the jitter, which drops its
fraction, stays within the percentage.  It has a whole millisecond exactly when the unrounded
one has.
-/

namespace Triage.Retry

open Triage.Number

variable {milliseconds percent hundredths : Nat}

/-! ## Shares -/

theorem jitterShare_nonneg (attempt : Nat) : 0 ≤ jitterShare attempt :=
  nearest_nonneg (by positivity)

/-- An attempt uses at most the whole range of the jitter. -/
theorem jitterShare_le_one (attempt : Nat) : jitterShare attempt ≤ 1 := by
  have fifths_le : ((attempt % 5 + 1 : Nat) : Rat) ≤ 5 := by exact_mod_cast (by omega)
  have share_le : ((attempt % 5 + 1 : Nat) : Rat) / 5 ≤ (1 : Nat) := by
    push_cast at fifths_le ⊢
    linarith
  calc jitterShare attempt ≤ nearest (1 : Nat) := nearest_mono (by positivity) share_le
    _ = 1 := by rw [nearest_natCast (by decide), Nat.cast_one]

/-! ## Rounded percentages -/

/-- The jitter in milliseconds that an attempt uses of a range in hundredths, before its
fraction is dropped. -/
def usedJitter (hundredths attempt : Nat) : Rat :=
  nearest (nearest ((hundredths : Rat) / 100) * jitterShare attempt)

/-- The percentage itself is computed exactly; only its division and the share are rounded. -/
theorem jitterMagnitude_eq (milliseconds_lt : milliseconds < 2 ^ 53)
    (product_lt : milliseconds * percent < 2 ^ 53) (attempt : Nat) :
    jitterMagnitude milliseconds percent attempt =
      (usedJitter (milliseconds * percent) attempt).floor.toNat := by
  simp only [jitterMagnitude, usedJitter]
  rw [nearest_natCast milliseconds_lt, ← Nat.cast_mul, nearest_natCast product_lt]

theorem usedJitter_nonneg (hundredths attempt : Nat) : 0 ≤ usedJitter hundredths attempt := by
  have range_nonneg : 0 ≤ nearest ((hundredths : Rat) / 100) := nearest_nonneg (by positivity)
  have share_nonneg := jitterShare_nonneg attempt
  exact nearest_nonneg (by positivity)

/-- A larger range gives a larger jitter. -/
theorem usedJitter_mono {larger : Nat} (le : hundredths ≤ larger) (attempt : Nat) :
    usedJitter hundredths attempt ≤ usedJitter larger attempt := by
  have range_nonneg : 0 ≤ nearest ((hundredths : Rat) / 100) := nearest_nonneg (by positivity)
  have share_nonneg := jitterShare_nonneg attempt
  have range_le : nearest ((hundredths : Rat) / 100) ≤ nearest ((larger : Rat) / 100) :=
    nearest_mono (by positivity) (by gcongr)
  exact nearest_mono (by positivity) (by gcongr)

/-- Below `2^46` milliseconds a number is moved by at most a 256th. -/
theorem abs_nearest_sub_le_of_lt {x : Rat} (nonneg : 0 ≤ x) (lt : x < 2 ^ 46) :
    |nearest x - x| ≤ 1 / 256 :=
  (abs_nearest_sub_le nonneg lt).trans (by norm_num)

/-- Rounding adds less than a hundredth of a millisecond to a range below `2^46`. -/
theorem usedJitter_lt (hundredths_le : hundredths + 100 ≤ 100 * 2 ^ 46) (attempt : Nat) :
    usedJitter hundredths attempt < ((hundredths : Rat) + 1) / 100 := by
  have exactRange_le : (hundredths : Rat) / 100 + 1 ≤ 2 ^ 46 := by
    have cast_le : (hundredths : Rat) + 100 ≤ 100 * 2 ^ 46 := by exact_mod_cast hundredths_le
    linarith
  have range_moved : |nearest ((hundredths : Rat) / 100) - hundredths / 100| ≤ 1 / 256 :=
    abs_nearest_sub_le_of_lt (by positivity) (by linarith)
  have range_nonneg : 0 ≤ nearest ((hundredths : Rat) / 100) := nearest_nonneg (by positivity)
  have share_nonneg := jitterShare_nonneg attempt
  have share_le : nearest ((hundredths : Rat) / 100) * jitterShare attempt ≤
      nearest ((hundredths : Rat) / 100) :=
    mul_le_of_le_one_right range_nonneg (jitterShare_le_one attempt)
  have range_le := (abs_le.mp range_moved).2
  have used_moved : |usedJitter hundredths attempt -
      nearest ((hundredths : Rat) / 100) * jitterShare attempt| ≤ 1 / 256 :=
    abs_nearest_sub_le_of_lt (by positivity) (by linarith)
  have used_le := (abs_le.mp used_moved).2
  linarith

/-! ## Whole milliseconds -/

/-- The jitter stays within its percentage. -/
theorem jitterMagnitude_le_percent (milliseconds_lt : milliseconds < 2 ^ 46)
    (percent_le : percent ≤ 100) (attempt : Nat) :
    100 * jitterMagnitude milliseconds percent attempt ≤ milliseconds * percent := by
  have product_le : milliseconds * percent + 100 ≤ 100 * 2 ^ 46 := by
    have := Nat.mul_le_mul_left milliseconds percent_le
    omega
  rw [jitterMagnitude_eq (by omega) (by omega)]
  have floor_le := Rat.floor_le (usedJitter (milliseconds * percent) attempt)
  have used_lt := usedJitter_lt product_le attempt
  have floor_nonneg : 0 ≤ (usedJitter (milliseconds * percent) attempt).floor :=
    Rat.le_floor_iff.mpr (usedJitter_nonneg _ attempt)
  have below : 100 * ((usedJitter (milliseconds * percent) attempt).floor : Rat) <
      ((milliseconds * percent : Nat) : Rat) + 1 := by linarith
  -- Both sides are integers, which turns the strict bound into the percentage itself.
  have whole_below : 100 * (usedJitter (milliseconds * percent) attempt).floor <
      ((milliseconds * percent : Nat) : Int) + 1 := by exact_mod_cast below
  omega

/-- The smallest range in hundredths of which an attempt uses a whole millisecond. -/
def wholeRange (attempt : Nat) : Nat := (500 + attempt % 5) / (attempt % 5 + 1)

/-- The share of an attempt depends on its place among five. -/
theorem usedJitter_mod (hundredths attempt : Nat) :
    usedJitter hundredths (attempt % 5) = usedJitter hundredths attempt := by
  rw [usedJitter, usedJitter, jitterShare, jitterShare, Nat.mod_mod]

theorem usedJitter_wholeRange (attempt : Nat) :
    1 ≤ usedJitter (wholeRange attempt) attempt ∧
      usedJitter (wholeRange attempt - 1) attempt < 1 := by
  -- The share repeats after five attempts, so these are all the ranges there are.
  have places : ∀ place < 5, 1 ≤ usedJitter (wholeRange place) place ∧
      usedJitter (wholeRange place - 1) place < 1 := by
    decide +kernel
  have same : wholeRange (attempt % 5) = wholeRange attempt := by
    rw [wholeRange, wholeRange, Nat.mod_mod]
  have place := places (attempt % 5) (Nat.mod_lt _ (by decide))
  rwa [same, usedJitter_mod, usedJitter_mod] at place

/-- The rounded jitter has a whole millisecond exactly when the exact one has. -/
theorem jitterMagnitude_pos_iff (milliseconds_lt : milliseconds < 2 ^ 46)
    (percent_le : percent ≤ 100) (attempt : Nat) :
    0 < jitterMagnitude milliseconds percent attempt ↔
      500 ≤ milliseconds * percent * (attempt % 5 + 1) := by
  have product_le := Nat.mul_le_mul_left milliseconds percent_le
  obtain ⟨whole, lessThanWhole⟩ := usedJitter_wholeRange attempt
  have used_iff : 1 ≤ usedJitter (milliseconds * percent) attempt ↔
      wholeRange attempt ≤ milliseconds * percent := by
    constructor
    · intro used
      by_contra short
      have used_le := usedJitter_mono (Nat.le_sub_one_of_lt (Nat.not_le.mp short)) attempt
      linarith
    · intro enough
      exact whole.trans (usedJitter_mono enough attempt)
  have floor_iff : 0 < (usedJitter (milliseconds * percent) attempt).floor.toNat ↔
      1 ≤ usedJitter (milliseconds * percent) attempt := by
    rw [Int.lt_toNat, Nat.cast_zero, ← Int.add_one_le_iff, zero_add, Rat.le_floor_iff, Int.cast_one]
  rw [jitterMagnitude_eq (by omega) (by omega), floor_iff, used_iff, wholeRange,
    Nat.div_le_iff_le_mul_add_pred (by omega), Nat.mul_comm (attempt % 5 + 1)]
  omega

/-- The jitter takes at most the whole delay. -/
theorem jitterMagnitude_le (milliseconds_lt : milliseconds < 2 ^ 46) (percent_le : percent ≤ 100)
    (attempt : Nat) : jitterMagnitude milliseconds percent attempt ≤ milliseconds := by
  have percent_bound := jitterMagnitude_le_percent milliseconds_lt percent_le attempt
  have product_le := Nat.mul_le_mul_left milliseconds percent_le
  omega

@[simp]
theorem jitterMagnitude_zero (milliseconds attempt : Nat) :
    jitterMagnitude milliseconds 0 attempt = 0 := by
  have floor_zero : Rat.floor 0 = 0 := Rat.floor_intCast 0
  simp [jitterMagnitude, floor_zero]

@[simp]
theorem jitter_zero (milliseconds attempt : Nat) : jitter milliseconds 0 attempt = 0 := by
  simp [jitter]

/-- Even attempts wait longer by the whole magnitude. -/
theorem jitter_of_even {attempt : Nat} (milliseconds_lt : milliseconds < 2 ^ 46)
    (percent_le : percent ≤ 100) (isEven : attempt % 2 = 0) :
    jitter milliseconds percent attempt = jitterMagnitude milliseconds percent attempt := by
  have magnitude_le := jitterMagnitude_le milliseconds_lt percent_le attempt
  simp only [jitter, if_pos isEven, maxSignedWord]
  omega

/-- Odd attempts wait shorter by the whole magnitude. -/
theorem jitter_of_odd {attempt : Nat} (milliseconds_lt : milliseconds < 2 ^ 46)
    (percent_le : percent ≤ 100) (isOdd : attempt % 2 = 1) :
    jitter milliseconds percent attempt = -jitterMagnitude milliseconds percent attempt := by
  have magnitude_le := jitterMagnitude_le milliseconds_lt percent_le attempt
  have isNotEven : ¬ attempt % 2 = 0 := by omega
  simp only [jitter, if_neg isNotEven, maxSignedWord]
  omega

/-- The jitter has the size of its magnitude, in either direction. -/
theorem natAbs_jitter_le (milliseconds percent attempt : Nat) :
    (jitter milliseconds percent attempt).natAbs ≤
      jitterMagnitude milliseconds percent attempt := by
  simp only [jitter]
  split <;> omega

/-- The jitter fits in a signed word. -/
theorem jitter_lt (milliseconds percent attempt : Nat) :
    jitter milliseconds percent attempt < 2 ^ 63 := by
  simp only [jitter, maxSignedWord]
  split <;> omega

end Triage.Retry
