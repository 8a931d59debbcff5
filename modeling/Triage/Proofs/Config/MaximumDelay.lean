import Triage.Proofs.Config.Usability
import Triage.Proofs.Retry.JitteredDelay

/-!
# The maximum delay

The maximum of a configuration caps the delay of an attempt before its jitter is added.  So
a delay exceeds the maximum, if at all, at an even attempt, and by no more than the
percentage of the jitter.  Where the cap is reached, it does so as soon as the jitter has a
whole millisecond.
-/

namespace Triage

open Triage.Retry

namespace Retry.Strategy

variable {strategy : Strategy} {baseDelay : Delay} {attempt : UInt32} {base maximum : Nat}

/-- A delay that starts from a base exceeds the maximum by the jitter of an even attempt and
by nothing else. -/
structure ExceedsOnlyByJitter (strategy : Strategy) (baseDelay : Delay) (attempt : UInt32)
    (delay : Delay) : Prop where
  exceeds_iff : ¬ delay ≤ strategy.maxDelay ↔
    attempt ≠ 0 ∧ attempt.toNat % 2 = 0 ∧
      strategy.maxDelay.milliseconds <
        strategy.capped baseDelay attempt + strategy.swing baseDelay attempt
  within_percentage : 100 * delay.nanoseconds ≤
    (100 + strategy.jitterPercent.toNat) * strategy.maxDelay.nanoseconds
  exceeds_iff_of_reached : attempt ≠ 0 → attempt.toNat % 2 = 0 →
    strategy.maxDelay.milliseconds ≤ baseDelay.milliseconds * growth attempt.toNat →
      (¬ delay ≤ strategy.maxDelay ↔
        500 ≤ strategy.maxDelay.milliseconds * strategy.jitterPercent.toNat *
          (attempt.toNat % 5 + 1))

/-- The cap is taken before the jitter, so only an attempt that waits longer leaves it. -/
theorem not_backoff_le_maxDelay_iff (percent_le : strategy.jitterPercent ≤ 100)
    (isMaximum : strategy.maxDelay.nanoseconds = maximum * 1000000)
    (capped_le : strategy.capped baseDelay attempt ≤ maximum) (maximum_lt : maximum < 2 ^ 46) :
    ¬ strategy.backoff baseDelay attempt ≤ strategy.maxDelay ↔
      attempt ≠ 0 ∧ attempt.toNat % 2 = 0 ∧
        maximum < strategy.capped baseDelay attempt + strategy.swing baseDelay attempt := by
  have capped_lt := capped_le.trans_lt maximum_lt
  rw [Delay.le_iff]
  by_cases counted : attempt = 0
  · subst counted
    simp
  · rcases Nat.mod_two_eq_zero_or_one attempt.toNat with isEven | isOdd
    · rw [backoff_of_even percent_le capped_lt counted isEven, isMaximum]
      simp only [ne_eq, counted, not_false_eq_true, isEven, true_and]
      omega
    · rw [backoff_of_odd percent_le capped_lt isOdd, isMaximum]
      omega

theorem exceedsOnlyByJitter_backoff (percent_le : strategy.jitterPercent ≤ 100)
    (isBase : baseDelay.nanoseconds = base * 1000000) (base_lt : base < 2 ^ 64)
    (isMaximum : strategy.maxDelay.nanoseconds = maximum * 1000000)
    (maximum_lt : maximum < 2 ^ 46) (attempt : UInt32) :
    strategy.ExceedsOnlyByJitter baseDelay attempt (strategy.backoff baseDelay attempt) := by
  have capped_eq : strategy.capped baseDelay attempt =
      exactMilliseconds base maximum attempt.toNat :=
    cappedMilliseconds_eq isBase base_lt isMaximum (by omega) attempt.toNat
  have capped_le : strategy.capped baseDelay attempt ≤ maximum :=
    capped_eq.trans_le (exactMilliseconds_le base maximum attempt.toNat)
  have capped_lt := capped_le.trans_lt maximum_lt
  have maxMilliseconds := Delay.milliseconds_of_isWhole isMaximum
  have exceeds := not_backoff_le_maxDelay_iff percent_le isMaximum capped_le maximum_lt
  refine ⟨by rwa [maxMilliseconds], ?_, fun counted isEven reached => ?_⟩
  · by_cases within : strategy.backoff baseDelay attempt ≤ strategy.maxDelay
    · exact Nat.mul_le_mul (by omega) within
    · obtain ⟨counted, isEven, -⟩ := exceeds.mp within
      have swing_le := swing_le_percent percent_le capped_lt
      have percents_le := Nat.mul_le_mul_right strategy.jitterPercent.toNat capped_le
      rw [backoff_of_even percent_le capped_lt counted isEven, isMaximum, ← Nat.mul_assoc,
        ← Nat.mul_assoc]
      apply Nat.mul_le_mul_right
      calc 100 * (strategy.capped baseDelay attempt + strategy.swing baseDelay attempt)
          ≤ 100 * maximum + maximum * strategy.jitterPercent.toNat := by omega
        _ = (100 + strategy.jitterPercent.toNat) * maximum := by ring
  · rw [Delay.milliseconds_of_isWhole isBase, maxMilliseconds] at reached
    have isCap : strategy.capped baseDelay attempt = maximum :=
      capped_eq.trans (Nat.min_eq_right reached)
    rw [exceeds, maxMilliseconds, ← jitterMagnitude_pos_iff maximum_lt
      (toNat_jitterPercent_le percent_le), swing, isCap]
    simp [counted, isEven]

/-- The base of the delays after a failure of some kind. -/
def baseFor (strategy : Strategy) : FailureKind → Delay
  | .throttling => strategy.throttlingBaseDelay
  | _ => strategy.baseDelay

theorem delayFor_eq (strategy : Strategy) (attempt : UInt32) (kind : FailureKind) :
    strategy.delayFor attempt kind = strategy.backoff (strategy.baseFor kind) attempt := by
  cases kind <;> rfl

end Retry.Strategy

namespace Config

open Retry.Strategy

/-- Every delay of a valid configuration, whatever the attempt and the kind of failure,
exceeds the maximum by the jitter of an even attempt and by nothing else. -/
theorem delays_exceed_maximum_only_by_jitter (config : Config) (valid : config.fault? = none)
    (maximum_lt : config.backoff.maxMilliseconds.toNat < 2 ^ 46) (attempt : UInt32)
    (kind : FailureKind) :
    config.strategy.ExceedsOnlyByJitter config.strategy.baseDelay attempt
        (config.strategy.delay attempt) ∧
      config.strategy.ExceedsOnlyByJitter (config.strategy.baseFor kind) attempt
        (config.strategy.delayFor attempt kind) := by
  have percent_le : config.strategy.jitterPercent ≤ 100 := (fault?_eq_none_iff.mp valid).2.2.1
  have exceeds (milliseconds : UInt64) : config.strategy.ExceedsOnlyByJitter
      (Delay.ofMilliseconds milliseconds) attempt
      (config.strategy.backoff (Delay.ofMilliseconds milliseconds) attempt) :=
    exceedsOnlyByJitter_backoff percent_le rfl milliseconds.toNat_lt rfl maximum_lt attempt
  refine ⟨exceeds _, ?_⟩
  rw [delayFor_eq]
  cases kind <;> exact exceeds _

/-- A throttled call of the standard configuration waits 21.6 seconds before its eighth
attempt; the maximum is 20 seconds. -/
theorem delays_exceed_maximum_only_by_jitter_throttled :
    standard.fault? = none ∧
      ¬ standard.strategy.delayFor 8 .throttling ≤ standard.strategy.maxDelay ∧
      100 * (standard.strategy.delayFor 8 .throttling).nanoseconds ≤
        110 * standard.strategy.maxDelay.nanoseconds := by
  have valid : standard.fault? = none := by decide
  obtain ⟨-, throttled⟩ :=
    delays_exceed_maximum_only_by_jitter standard valid (by decide) 8 .throttling
  have exceeds := throttled.exceeds_iff_of_reached (by decide) (by decide) (by decide)
  exact ⟨valid, exceeds.mpr (by decide), throttled.within_percentage⟩

/-- The standard configuration is valid, its delays are short, and an ordinary tenth attempt
waits longer than the maximum. -/
theorem tenth_attempt_exceeds_maximum :
    standard.fault? = none ∧
      (standard.backoff.baseMilliseconds.toNat < 2 ^ 46 ∧
        standard.backoff.throttlingBaseMilliseconds.toNat < 2 ^ 46 ∧
        standard.backoff.maxMilliseconds.toNat < 2 ^ 46) ∧
      standard.strategy.maxDelay.nanoseconds = 20000 * 1000000 ∧
      (standard.strategy.delay 10).nanoseconds = 20400 * 1000000 ∧
      ¬ standard.strategy.delay 10 ≤ standard.strategy.maxDelay := by
  decide +kernel

end Config

end Triage
