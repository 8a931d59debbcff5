import Triage.Proofs.FailureKind
import Triage.Proofs.Retry.WordArithmetic
import Triage.Proofs.Time.Shift
import Triage.Retry.Decision

/-!
# Failures that cannot be judged

A failure has no kind and no decision in one case only: its policy compares the clocks,
and the estimate of the service's clock leaves the calendar.  An offset of that size is a
span like any other.  Nothing else keeps a failure from being judged, and the delay after
it is computed without leaving the signed word.
-/

namespace Triage

open Triage.Retry Triage.Skew Triage.Time

namespace ServiceFailure

variable {failure : ServiceFailure} {now : Instant}

/-- The policy compares the clocks and the estimate of the service's clock leaves the
calendar. -/
structure EstimateLost (failure : ServiceFailure) (now : Instant) : Prop where
  uncertain : ErrorCode.isDefiniteSkew failure.details.code = false
  suspected : failure.policy.suspects (failure.observation now) = true
  dated : failure.serverTime?.isSome = true
  leavesLeap : ¬ now.StaysInLeap (-failure.clockOffset.nanoseconds)
  leavesCalendar :
    Instant.LeavesCalendar (now.unixNanoseconds + -failure.clockOffset.nanoseconds -
      (if now.CrossesLeap (-failure.clockOffset.nanoseconds) then
        (nanosecondsPerSecond : Int) else 0))

theorem isClockSkew?_eq_none_iff :
    failure.isClockSkew? now = none ↔ failure.EstimateLost now := by
  have judged : failure.isClockSkew? now = none ↔ _ := Policy.isSkewed?_eq_none_iff
  rw [judged, Instant.sub?, Instant.addNanoseconds?_eq_none_iff]
  constructor
  · rintro ⟨uncertain, suspected, dated, leavesLeap, leavesCalendar⟩
    exact ⟨uncertain, suspected, dated, leavesLeap, leavesCalendar⟩
  · rintro ⟨uncertain, suspected, dated, leavesLeap, leavesCalendar⟩
    exact ⟨uncertain, suspected, dated, leavesLeap, leavesCalendar⟩

/-- A failure has a kind when its clock is judged. -/
theorem kind?_eq_none_iff : failure.kind? now = none ↔ failure.EstimateLost now := by
  rw [← isClockSkew?_eq_none_iff, kind?, isClockSkew?, Option.map_eq_none_iff,
    Option.map_eq_none_iff]

end ServiceFailure

namespace Retry.Strategy

open ServiceFailure

variable {strategy : Strategy} {failure : ServiceFailure} {now : Instant} {attempt : UInt32}

theorem decide?_eq_none_iff :
    strategy.decide? attempt failure now = none ↔ failure.EstimateLost now := by
  rw [← kind?_eq_none_iff, decide?, Option.map_eq_none_iff]

/-- A failure has a flag, a kind and a decision unless the estimate of the service's
clock is lost, and the delays after it are sums that stay in the signed word. -/
theorem judged_unless_estimateLost (strategy : Strategy) (attempt : UInt32)
    (failure : ServiceFailure) (now : Instant)
    (maximum_lt : strategy.maxDelay.milliseconds < 2 ^ 46)
    (percent_le : strategy.jitterPercent ≤ 100) :
    (failure.isClockSkew? now = none ↔ failure.EstimateLost now) ∧
      (failure.kind? now = none ↔ failure.EstimateLost now) ∧
      (strategy.decide? attempt failure now = none ↔ failure.EstimateLost now) ∧
      ∀ base : Delay, attempt ≠ 0 →
        -2 ^ 63 ≤ strategy.movedMilliseconds base attempt ∧
          strategy.movedMilliseconds base attempt < 2 ^ 63 ∧
          (strategy.backoff base attempt).nanoseconds =
            (strategy.movedMilliseconds base attempt).toNat * 1000000 := by
  refine ⟨isClockSkew?_eq_none_iff, kind?_eq_none_iff, decide?_eq_none_iff,
    fun base counted => ?_⟩
  have bounds := movedMilliseconds_bounds base attempt maximum_lt percent_le
  exact ⟨bounds.1, bounds.2, backoff_nanoseconds base counted bounds.1 bounds.2⟩

/-- A refused call of a client that believes its clock to be ahead by a span. -/
def refusedAhead (offset : Span) : ServiceFailure :=
  { ServiceFailure.ofAnswer "AccessDenied" 403 (some "Sat, 09 Mar 2024 16:20:00 GMT") with
    clockOffset := offset }

/-- The ninth of March 2024, half past four in the afternoon. -/
def afternoon : Instant := (Instant.ofParts? 19791 59400 0).get rfl

/-- The belief in a clock that is ahead by a whole million years is lost. -/
theorem judged_unless_estimateLost_millionYears :
    let offset := (Span.ofSeconds? 31557600000000).get rfl
    (refusedAhead offset).EstimateLost afternoon ∧
      standard.decide? 1 (refusedAhead offset) afternoon = none := by
  intro offset
  have lost : (refusedAhead offset).EstimateLost afternoon := {
    uncertain := by decide
    suspected := by decide
    dated := by decide +kernel
    leavesLeap := by decide
    leavesCalendar := by decide }
  obtain ⟨-, -, decides, -⟩ :=
    judged_unless_estimateLost standard 1 (refusedAhead offset) afternoon (by decide) (by decide)
  exact ⟨lost, decides.mpr lost⟩

/-- The belief in a clock that is ahead by the longest span leaves a failure without a
flag, a kind and a decision. -/
theorem longest_offset_is_not_judged :
    let offset : Span := ⟨Span.limit, by decide, by decide⟩
    (refusedAhead offset).isClockSkew? afternoon = none ∧
      (refusedAhead offset).kind? afternoon = none ∧
      standard.decide? 1 (refusedAhead offset) afternoon = none := by
  decide +kernel

end Retry.Strategy

end Triage
