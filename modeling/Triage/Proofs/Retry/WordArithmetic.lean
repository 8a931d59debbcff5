import Triage.Proofs.Retry.JitterRange

/-!
# Delays in 64-bit words

The delay of an attempt is the capped delay with its jitter, which is added in a signed
word of 64 bits.  Below a maximum of `2^46` milliseconds the jitter takes at most the whole
delay, so that the sum stays in the word.  A sum beyond the word turns negative, and there
is no delay then.
-/

namespace Triage.Retry

theorem cappedMilliseconds_le (base maximum : Delay) (attempt : Nat) :
    cappedMilliseconds base maximum attempt ≤ maximum.milliseconds := by
  have word_le : maximum.millisecondsWord.toNat ≤ maximum.milliseconds := by
    rw [Delay.millisecondsWord, UInt64.toNat_ofNat']
    exact Nat.mod_le _ _
  exact (Nat.min_le_right _ _).trans word_le

/-- A number within the bounds of a signed word keeps its value there. -/
theorem bmod_maxWord_of_bounds {milliseconds : Int} (lower : -2 ^ 63 ≤ milliseconds)
    (upper : milliseconds < 2 ^ 63) : Int.bmod milliseconds (maxWord + 1) = milliseconds := by
  apply Int.bmod_eq_of_le
  all_goals
    simp only [maxWord]
    omega

/-- A number below `2^63` keeps its value in a signed word. -/
theorem bmod_maxWord_of_lt {milliseconds : Nat} (lt : milliseconds < 2 ^ 63) :
    Int.bmod milliseconds (maxWord + 1) = milliseconds :=
  bmod_maxWord_of_bounds (by omega) (by omega)

/-- A number from `2^63` on turns negative in a signed word. -/
theorem bmod_maxWord_of_le {milliseconds : Int} (le : 2 ^ 63 ≤ milliseconds)
    (lt : milliseconds < 2 ^ 64) :
    Int.bmod milliseconds (maxWord + 1) = milliseconds - 2 ^ 64 := by
  rw [← Int.sub_bmod_right]
  exact bmod_maxWord_of_bounds (by simp only [maxWord]; omega) (by simp only [maxWord]; omega)

@[simp]
theorem Delay.nanoseconds_ofMilliseconds (milliseconds : UInt64) :
    (Delay.ofMilliseconds milliseconds).nanoseconds = milliseconds.toNat * 1000000 := rfl

namespace Strategy

/-- The milliseconds of an attempt with its jitter, before they wrap around in a signed
word. -/
def movedMilliseconds (strategy : Strategy) (base : Delay) (attempt : UInt32) : Int :=
  let capped := cappedMilliseconds base strategy.maxDelay attempt.toNat
  Int.bmod capped (maxWord + 1) +
    jitter capped strategy.jitterPercent.toNat attempt.toNat

/-- The delay of an attempt comes from the word of its sum with the jitter. -/
theorem backoff_eq (strategy : Strategy) (base : Delay) {attempt : UInt32}
    (counted : attempt ≠ 0) :
    strategy.backoff base attempt = Delay.ofMilliseconds (UInt64.ofNat
      (Int.bmod (strategy.movedMilliseconds base attempt) (maxWord + 1)).toNat) :=
  if_neg counted

/-- A capped delay below `2^63` milliseconds keeps its value in the signed word. -/
theorem movedMilliseconds_eq {strategy : Strategy} {base : Delay} {attempt : UInt32}
    (capped_lt : cappedMilliseconds base strategy.maxDelay attempt.toNat < 2 ^ 63) :
    strategy.movedMilliseconds base attempt =
      cappedMilliseconds base strategy.maxDelay attempt.toNat +
        jitter (cappedMilliseconds base strategy.maxDelay attempt.toNat)
          strategy.jitterPercent.toNat attempt.toNat := by
  unfold movedMilliseconds
  generalize cappedMilliseconds base strategy.maxDelay attempt.toNat = capped at capped_lt ⊢
  simp only [bmod_maxWord_of_lt capped_lt]

/-- Both summands are signed words. -/
theorem movedMilliseconds_lt (strategy : Strategy) (base : Delay) (attempt : UInt32) :
    strategy.movedMilliseconds base attempt < 2 ^ 64 := by
  unfold movedMilliseconds
  generalize cappedMilliseconds base strategy.maxDelay attempt.toNat = capped
  have capped_lt : Int.bmod capped (maxWord + 1) < 2 ^ 63 := Int.bmod_lt (by decide)
  have jitter_lt := jitter_lt capped strategy.jitterPercent.toNat attempt.toNat
  exact (Int.add_lt_add capped_lt jitter_lt).trans_eq (by decide)

theorem toNat_jitterPercent_le {strategy : Strategy} (percent_le : strategy.jitterPercent ≤ 100) :
    strategy.jitterPercent.toNat ≤ 100 := by
  simpa [UInt8.le_iff_toNat_le] using percent_le

/-- Below a maximum of `2^46` milliseconds the sum stays in the signed word. -/
theorem movedMilliseconds_bounds {strategy : Strategy} (base : Delay) (attempt : UInt32)
    (maximum_lt : strategy.maxDelay.milliseconds < 2 ^ 46)
    (percent_le : strategy.jitterPercent ≤ 100) :
    -2 ^ 63 ≤ strategy.movedMilliseconds base attempt ∧
      strategy.movedMilliseconds base attempt < 2 ^ 63 := by
  have capped_le := cappedMilliseconds_le base strategy.maxDelay attempt.toNat
  rw [movedMilliseconds_eq (by omega)]
  generalize cappedMilliseconds base strategy.maxDelay attempt.toNat = capped at capped_le ⊢
  have jitter_le := natAbs_jitter_le capped strategy.jitterPercent.toNat attempt.toNat
  have magnitude_le : jitterMagnitude capped strategy.jitterPercent.toNat attempt.toNat ≤ capped :=
    jitterMagnitude_le (by omega) (toNat_jitterPercent_le percent_le) attempt.toNat
  omega

/-- The delay of an attempt is what the signed word holds, or nothing below zero. -/
theorem backoff_nanoseconds_eq_bmod (strategy : Strategy) (base : Delay) {attempt : UInt32}
    (counted : attempt ≠ 0) :
    (strategy.backoff base attempt).nanoseconds =
      (Int.bmod (strategy.movedMilliseconds base attempt) (maxWord + 1)).toNat * 1000000 := by
  have lt : Int.bmod (strategy.movedMilliseconds base attempt) (maxWord + 1) < 2 ^ 63 :=
    Int.bmod_lt (by decide)
  rw [backoff_eq strategy base counted, Delay.nanoseconds_ofMilliseconds,
    UInt64.toNat_ofNat_of_lt']
  simp only [UInt64.size]
  omega

/-- The delay of an attempt whose sum stays in the signed word is this sum, or nothing for a
sum below zero. -/
theorem backoff_nanoseconds {strategy : Strategy} {attempt : UInt32} (base : Delay)
    (counted : attempt ≠ 0) (lower : -2 ^ 63 ≤ strategy.movedMilliseconds base attempt)
    (upper : strategy.movedMilliseconds base attempt < 2 ^ 63) :
    (strategy.backoff base attempt).nanoseconds =
      (strategy.movedMilliseconds base attempt).toNat * 1000000 := by
  rw [backoff_nanoseconds_eq_bmod strategy base counted, bmod_maxWord_of_bounds lower upper]

/-- A sum beyond the signed word leaves no delay. -/
theorem backoff_nanoseconds_of_overflow {strategy : Strategy} {attempt : UInt32} (base : Delay)
    (counted : attempt ≠ 0) (overflows : 2 ^ 63 ≤ strategy.movedMilliseconds base attempt) :
    (strategy.backoff base attempt).nanoseconds = 0 := by
  have moved_lt := strategy.movedMilliseconds_lt base attempt
  rw [backoff_nanoseconds_eq_bmod strategy base counted, bmod_maxWord_of_le overflows moved_lt,
    Int.toNat_of_nonpos (by omega), Nat.zero_mul]

/-- The longest delay in a signed word, doubled by its jitter. -/
example : ((ofBase (Delay.ofMilliseconds 9223372036854775807)
    (Delay.ofMilliseconds 9223372036854775807) 5 100).delay 4).nanoseconds = 0 := by
  decide +kernel

end Strategy

end Triage.Retry
