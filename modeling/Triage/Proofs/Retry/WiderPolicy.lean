import Triage.Proofs.Retry.DecisionTable
import Triage.Proofs.Time.Shift

/-!
# Wider policies

A policy is wider than another when it suspects more, tolerates less, or both.  As long as
the estimate of the service's clock stays in the calendar, a failure that is put down to a
wrong clock by a policy is put down to it by every wider one.  Such a failure may have been
a passing one before, so that its decision changes, but an attempt that was granted is
granted again and a correction that was handed out is handed out again.
-/

namespace Triage

open Triage.Retry Triage.Skew Triage.Time

namespace Skew

namespace Policy

/-- The wider policy suspects what the narrow one suspects and tolerates no more. -/
structure IsWidenedTo (narrow wide : Policy) : Prop where
  sensitiveStatuses : narrow.sensitiveStatuses ⊆ wide.sensitiveStatuses
  threshold : wide.threshold ≤ narrow.threshold
  possibleCodesOnAnyStatus :
    narrow.possibleCodesOnAnyStatus = true → wide.possibleCodesOnAnyStatus = true

variable {narrow wide : Policy} {observation : Observation}

theorem IsWidenedTo.suspects (widened : narrow.IsWidenedTo wide)
    (suspected : narrow.suspects observation = true) : wide.suspects observation = true := by
  simp only [Policy.suspects, isSensitiveStatus, Bool.or_eq_true, Bool.and_eq_true,
    List.contains_iff_mem] at suspected ⊢
  rcases suspected with byStatus | ⟨enabled, possible⟩
  · exact .inl (widened.sensitiveStatuses byStatus)
  · exact .inr ⟨widened.possibleCodesOnAnyStatus enabled, possible⟩

/-- What is put down to a wrong clock stays so under a wider policy. -/
theorem IsWidenedTo.isSkewed? (widened : narrow.IsWidenedTo wide)
    (skewed : narrow.isSkewed? observation = some true) :
    wide.isSkewed? observation = some true := by
  rw [isSkewed?_eq_some_true_iff] at skewed ⊢
  rcases skewed with certain | ⟨suspected, server, estimate, known, goneBack, measured⟩
  · exact .inl certain
  · exact .inr ⟨widened.suspects suspected, server, estimate, known, goneBack,
      isClockSkewed_of_threshold_le widened.threshold measured⟩

end Policy

end Skew

namespace ServiceFailure

variable {failure : ServiceFailure} {now : Instant}

/-- The failure as judged by another policy. -/
def withPolicy (failure : ServiceFailure) (policy : Policy) : ServiceFailure :=
  { failure with policy := policy }

/-- A failure is judged by every policy when the estimate of the service's clock stays in
the calendar. -/
theorem exists_isClockSkew?_withPolicy {estimate : Instant} (policy : Policy)
    (goneBack : now.sub? failure.clockOffset = some estimate) :
    ∃ skewed, (failure.withPolicy policy).isClockSkew? now = some skewed :=
  policy.exists_isSkewed? ((failure.withPolicy policy).observation now) goneBack

end ServiceFailure

namespace Retry.Strategy

variable {strategy : Strategy} {attempt : UInt32} {failure : ServiceFailure} {now : Instant}
  {narrow wide : Policy} {skewed : Bool}

/-- Policies that come to the same judgement lead to the same decision. -/
theorem decide?_withPolicy_congr
    (narrowJudged : (failure.withPolicy narrow).isClockSkew? now = some skewed)
    (wideJudged : (failure.withPolicy wide).isClockSkew? now = some skewed) :
    strategy.decide? attempt (failure.withPolicy narrow) now =
      strategy.decide? attempt (failure.withPolicy wide) now := by
  rw [decide?, decide?, ServiceFailure.kind?_of_isClockSkew? narrowJudged,
    ServiceFailure.kind?_of_isClockSkew? wideJudged]
  -- Past the judgement neither the flags nor the time of the service depend on the policy.
  rfl

/-- A client that replaces the policy of its failures by a wider one loses nothing.  A
failure that was put down to a wrong clock still is, an attempt that was granted is granted,
and a correction that was handed out is handed out unchanged; as long as the two policies
come to the same judgement, the decision is the same. -/
theorem widened_policy_keeps_retries {narrow wide : Policy} (widened : narrow.IsWidenedTo wide)
    (strategy : Strategy) (attempt : UInt32) (failure : ServiceFailure) {now estimate : Instant}
    (goneBack : now.sub? failure.clockOffset = some estimate) :
    ∃ narrowSkewed wideSkewed narrowDecision wideDecision,
      (failure.withPolicy narrow).isClockSkew? now = some narrowSkewed ∧
      (failure.withPolicy wide).isClockSkew? now = some wideSkewed ∧
      strategy.decide? attempt (failure.withPolicy narrow) now = some narrowDecision ∧
      strategy.decide? attempt (failure.withPolicy wide) now = some wideDecision ∧
      (narrowSkewed = true → wideSkewed = true) ∧
      (narrowDecision.shouldRetry = true → wideDecision.shouldRetry = true) ∧
      (∀ delay skew, narrowDecision = .retryWithClockSkew delay skew →
        wideDecision = .retryWithClockSkew delay skew) ∧
      (narrowSkewed = wideSkewed → narrowDecision = wideDecision) := by
  obtain ⟨narrowSkewed, narrowJudged⟩ :=
    ServiceFailure.exists_isClockSkew?_withPolicy narrow goneBack
  obtain ⟨wideSkewed, wideJudged⟩ := ServiceFailure.exists_isClockSkew?_withPolicy wide goneBack
  obtain ⟨narrowDecision, narrowDecided⟩ :=
    exists_decide?_of_isClockSkew? strategy attempt narrowJudged
  obtain ⟨wideDecision, wideDecided⟩ := exists_decide?_of_isClockSkew? strategy attempt wideJudged
  refine ⟨narrowSkewed, wideSkewed, narrowDecision, wideDecision, narrowJudged, wideJudged,
    narrowDecided, wideDecided, ?_⟩
  have keepsSkew : narrowSkewed = true → wideSkewed = true := by
    rintro rfl
    exact Option.some.inj (wideJudged.symm.trans (widened.isSkewed? narrowJudged))
  by_cases agree : narrowSkewed = wideSkewed
  · subst agree
    rw [decide?_withPolicy_congr narrowJudged wideJudged, wideDecided] at narrowDecided
    obtain rfl := Option.some.inj narrowDecided
    exact ⟨id, id, fun _ _ => id, fun _ => rfl⟩
  · -- Only the wider policy blames the clock: what was retried had another reason.
    obtain rfl : narrowSkewed = false := by
      cases narrowSkewed with
      | false => rfl
      | true => exact absurd (keepsSkew rfl).symm agree
    obtain rfl : wideSkewed = true := by simpa using agree
    refine ⟨keepsSkew, fun retries => ?_, fun delay skew corrects => ?_, fun same => ?_⟩
    · have allowed := ((shouldRetry_iff_of_decide? narrowJudged narrowDecided).mp retries).1
      exact (shouldRetry_iff_of_decide? wideJudged wideDecided).mpr ⟨allowed, .inl rfl⟩
    · rw [corrects, decide?_eq_retryWithClockSkew_iff, narrowJudged] at narrowDecided
      simp at narrowDecided
    · contradiction

/-- A busy service refuses a signature; its clock is two minutes ahead of the epoch. -/
def busyRefusal : ServiceFailure :=
  ServiceFailure.ofAnswer "SignatureDoesNotMatch" 503 (some "Thu, 01 Jan 1970 00:02:00 GMT")

/-- A policy that looks at possible codes on any status and tolerates a minute. -/
def strictPolicy : Policy where
  sensitiveStatuses := [400, 401, 403]
  threshold := ⟨60 * 1000000000, by decide, by decide⟩
  possibleCodesOnAnyStatus := true

/-- What waited for the busy service becomes a wrong clock, and is tried again all the same. -/
theorem widened_policy_keeps_retries_busyRefusal :
    Policy.standard.IsWidenedTo strictPolicy ∧
      standard.decide? 1 (busyRefusal.withPolicy Policy.standard) epoch =
        some (.retry (standard.delay 1)) ∧
      (busyRefusal.withPolicy strictPolicy).isClockSkew? epoch = some true ∧
      ∃ decision, standard.decide? 1 (busyRefusal.withPolicy strictPolicy) epoch = some decision ∧
        decision.shouldRetry = true := by
  have widened : Policy.standard.IsWidenedTo strictPolicy := {
    sensitiveStatuses := by decide
    threshold := by decide
    possibleCodesOnAnyStatus := fun _ => rfl }
  have waits : standard.decide? 1 (busyRefusal.withPolicy Policy.standard) epoch =
      some (.retry (standard.delay 1)) := by
    decide +kernel
  obtain ⟨-, -, _, wideDecision, -, -, narrowDecided, wideDecided, -, keepsRetries, -⟩ :=
    widened_policy_keeps_retries widened standard 1 busyRefusal (Instant.sub?_zero epoch)
  obtain rfl := Option.some.inj (narrowDecided.symm.trans waits)
  exact ⟨widened, waits, by decide +kernel, wideDecision, wideDecided, keepsRetries rfl⟩

end Retry.Strategy

end Triage
