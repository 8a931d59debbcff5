import Triage.Proofs.Retry.Backoff

/-!
# Delays with jitter

Even attempts wait for the capped delay and their jitter, odd ones for the capped delay
without it.  As the jitter stays within its percentage of the capped delay, so does the
distance of the two delays.
-/

namespace Triage.Retry

namespace Strategy

variable {strategy : Strategy} {baseDelay : Delay} {attempt : UInt32}

/-- The milliseconds of an attempt before its jitter. -/
def capped (strategy : Strategy) (baseDelay : Delay) (attempt : UInt32) : Nat :=
  cappedMilliseconds baseDelay strategy.maxDelay attempt.toNat

/-- The milliseconds by which the jitter moves an attempt. -/
def swing (strategy : Strategy) (baseDelay : Delay) (attempt : UInt32) : Nat :=
  jitterMagnitude (strategy.capped baseDelay attempt) strategy.jitterPercent.toNat attempt.toNat

theorem swing_le_percent (percent_le : strategy.jitterPercent ≤ 100)
    (capped_lt : strategy.capped baseDelay attempt < 2 ^ 46) :
    100 * strategy.swing baseDelay attempt ≤
      strategy.capped baseDelay attempt * strategy.jitterPercent.toNat :=
  jitterMagnitude_le_percent capped_lt (toNat_jitterPercent_le percent_le) attempt.toNat

/-- An attempt is moved by at most its whole delay. -/
theorem swing_le_capped (percent_le : strategy.jitterPercent ≤ 100)
    (capped_lt : strategy.capped baseDelay attempt < 2 ^ 46) :
    strategy.swing baseDelay attempt ≤ strategy.capped baseDelay attempt :=
  jitterMagnitude_le capped_lt (toNat_jitterPercent_le percent_le) attempt.toNat

theorem moved_eq_capped_add_jitter (capped_lt : strategy.capped baseDelay attempt < 2 ^ 46) :
    strategy.movedMilliseconds baseDelay attempt =
      strategy.capped baseDelay attempt + jitter (strategy.capped baseDelay attempt)
        strategy.jitterPercent.toNat attempt.toNat :=
  movedMilliseconds_eq (capped_lt.trans (by decide))

/-- Even attempts wait longer. -/
theorem backoff_of_even (percent_le : strategy.jitterPercent ≤ 100)
    (capped_lt : strategy.capped baseDelay attempt < 2 ^ 46) (counted : attempt ≠ 0)
    (isEven : attempt.toNat % 2 = 0) :
    (strategy.backoff baseDelay attempt).nanoseconds =
      (strategy.capped baseDelay attempt + strategy.swing baseDelay attempt) * 1000000 := by
  have swing_le := swing_le_capped percent_le capped_lt
  have moved : strategy.movedMilliseconds baseDelay attempt =
      strategy.capped baseDelay attempt + strategy.swing baseDelay attempt := by
    rw [moved_eq_capped_add_jitter capped_lt,
      jitter_of_even capped_lt (toNat_jitterPercent_le percent_le) isEven, swing]
  rw [backoff_nanoseconds baseDelay counted (by omega) (by omega), moved]
  omega

/-- Odd attempts wait shorter. -/
theorem backoff_of_odd (percent_le : strategy.jitterPercent ≤ 100)
    (capped_lt : strategy.capped baseDelay attempt < 2 ^ 46) (isOdd : attempt.toNat % 2 = 1) :
    (strategy.backoff baseDelay attempt).nanoseconds =
      (strategy.capped baseDelay attempt - strategy.swing baseDelay attempt) * 1000000 := by
  have counted : attempt ≠ 0 := by
    rintro rfl
    contradiction
  have swing_le := swing_le_capped percent_le capped_lt
  have moved : strategy.movedMilliseconds baseDelay attempt =
      strategy.capped baseDelay attempt - strategy.swing baseDelay attempt := by
    rw [moved_eq_capped_add_jitter capped_lt,
      jitter_of_odd capped_lt (toNat_jitterPercent_le percent_le) isOdd, swing,
      Int.sub_eq_add_neg]
  rw [backoff_nanoseconds baseDelay counted (by omega) (by omega), moved]
  omega

/-- The jitter of an attempt stays within its percentage of the exact capped delay: even
attempts wait at least as long as without it, odd ones at most as long. -/
theorem jitter_stays_within_percentage {strategy : Strategy} {base maximum capped : Nat}
    {attempt : UInt32} (percent_le : strategy.jitterPercent ≤ 100)
    (isBase : strategy.baseDelay.nanoseconds = base * 1000000) (base_lt : base < 2 ^ 64)
    (isMaximum : strategy.maxDelay.nanoseconds = maximum * 1000000)
    (maximum_lt : maximum < 2 ^ 64) (counted : attempt ≠ 0)
    (isCapped : capped = min (base * 2 ^ min (attempt.toNat - 1) 31) maximum)
    (capped_lt : capped < 2 ^ 46) :
    ∃ delay, (strategy.delay attempt).nanoseconds = delay * 1000000 ∧
      (attempt.toNat % 2 = 0 → capped ≤ delay ∧
        100 * (delay - capped) ≤ capped * strategy.jitterPercent.toNat) ∧
      (attempt.toNat % 2 = 1 → delay ≤ capped ∧
        100 * (capped - delay) ≤ capped * strategy.jitterPercent.toNat) := by
  have same : strategy.capped strategy.baseDelay attempt = capped :=
    (cappedMilliseconds_eq isBase base_lt isMaximum maximum_lt attempt.toNat).trans isCapped.symm
  rw [← same] at capped_lt ⊢
  have swing_le := swing_le_percent percent_le capped_lt
  have swing_le_whole := swing_le_capped percent_le capped_lt
  rcases Nat.mod_two_eq_zero_or_one attempt.toNat with isEven | isOdd
  · refine ⟨_, backoff_of_even percent_le capped_lt counted isEven, fun _ => ?_, fun isOdd => ?_⟩
    · omega
    · omega
  · refine ⟨_, backoff_of_odd percent_le capped_lt isOdd, fun isEven => ?_, fun _ => ?_⟩
    · omega
    · omega

/-- A strategy whose jitter is the whole delay, of as many milliseconds as fit. -/
def restless : Strategy where
  baseDelay := Delay.ofMilliseconds 70368744177663
  throttlingBaseDelay := Delay.ofMilliseconds 70368744177663
  maxDelay := Delay.ofMilliseconds 70368744177663
  maxAttempts := 10
  jitterPercent := 100

/-- The ninth attempt uses all of its jitter and does not wait at all. -/
theorem jitter_stays_within_percentage_restless :
    restless.delay 9 = Delay.zero ∧
      ∃ delay, (restless.delay 9).nanoseconds = delay * 1000000 ∧ delay ≤ 70368744177663 ∧
        100 * (70368744177663 - delay) ≤ 70368744177663 * 100 := by
  obtain ⟨delay, isDelay, -, odd⟩ :=
    @jitter_stays_within_percentage restless 70368744177663 70368744177663 70368744177663 9
      (by decide) rfl (by decide) rfl (by decide) (by decide) (by decide) (by decide)
  exact ⟨by decide +kernel, delay, isDelay, odd (by decide)⟩

end Strategy

end Triage.Retry
