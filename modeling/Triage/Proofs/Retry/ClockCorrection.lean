import Triage.Proofs.Retry.DecisionTable
import Triage.Proofs.Time.Difference

/-!
# Corrections of a wrong clock

A correction is the difference of the two clocks, whatever the client knew before.
Once the client goes back by it, its estimate of the service's time is exact, or at
most two seconds off around leap seconds, so the same failure is no longer put down
to a wrong clock.
-/

namespace Triage

open Triage.Retry Triage.Skew Triage.Time

namespace ServiceFailure

variable {failure : ServiceFailure} {now server estimate : Instant} {offset : Span}

/-- The time of the service does not depend on what the client knows. -/
@[simp]
theorem serverTime?_withClockOffset (failure : ServiceFailure) (offset : Span) :
    (failure.withClockOffset offset).serverTime? = failure.serverTime? := rfl

/-- Rebuilding a failure with another offset only changes the offset. -/
theorem build_toDraft_clockOffset (failure : ServiceFailure) (offset : Span) :
    Draft.build { failure.toDraft with clockOffset := offset } =
      .ok (failure.withClockOffset offset) := rfl

/-- An estimate that is off by less than the threshold clears a failure of a wrong
clock. -/
theorem isClockSkew?_withClockOffset_eq_false
    (uncertain : ErrorCode.isDefiniteSkew failure.details.code = false)
    (known : failure.serverTime? = some server) (goneBack : now.sub? offset = some estimate)
    (near : (estimate.nanosecondsSince server).natAbs <
      failure.policy.threshold.nanoseconds) :
    (failure.withClockOffset offset).isClockSkew? now = some false := by
  refine Policy.isSkewed?_eq_some_false_iff.mpr ⟨uncertain, .inr (.inr ?_)⟩
  refine ⟨server, estimate, known, goneBack, ?_⟩
  rw [Bool.eq_false_iff, ne_eq, isClockSkewed_iff]
  exact Int.not_le.mpr near

end ServiceFailure

namespace Retry

/-- A decision with a correction waits for nothing and hands out the difference of
the clocks, which the offset carried before does not change.  Rebuilt with it, the
failure is no longer put down to a wrong clock: outside leap seconds the estimate is
exact and every positive threshold will do, otherwise it is at most two seconds off
and every larger threshold will do. -/
theorem correction_cures_skew {strategy : Strategy} {attempt : UInt32}
    {failure : ServiceFailure} {now : Instant} {delay : Delay} {skew : Span}
    (decided : strategy.decide? attempt failure now =
      some (.retryWithClockSkew delay skew)) :
    delay = Delay.zero ∧
    (∀ offset otherDelay otherSkew,
      strategy.decide? attempt (failure.withClockOffset offset) now =
        some (.retryWithClockSkew otherDelay otherSkew) → otherSkew = skew) ∧
    ∃ server cured, failure.serverTime? = some server ∧ skew = clockSkew now server ∧
      ServiceFailure.Draft.build { failure.toDraft with clockOffset := skew } = .ok cured ∧
      (¬ now.IsLeap → ¬ server.IsLeap →
        now.sub? skew = some server ∧
        (0 < failure.policy.threshold.nanoseconds →
          ErrorCode.isDefiniteSkew failure.details.code = false →
          cured.isClockSkew? now = some false)) ∧
      (0 ≤ server.date.year → server.date.year ≤ 9999 →
        (∃ estimate, now.sub? skew = some estimate ∧
          (estimate.nanosecondsSince server).natAbs ≤ 2 * nanosecondsPerSecond) ∧
        (2 * (nanosecondsPerSecond : Int) < failure.policy.threshold.nanoseconds →
          ErrorCode.isDefiniteSkew failure.details.code = false →
          cured.isClockSkew? now = some false)) := by
  obtain ⟨-, -, rfl, server, known, rfl⟩ :=
    Strategy.decide?_eq_retryWithClockSkew_iff.mp decided
  refine ⟨rfl, ?_, server, failure.withClockOffset (clockSkew now server), known, rfl,
    failure.build_toDraft_clockOffset _, ?_, ?_⟩
  · intro offset otherDelay otherSkew otherDecided
    obtain ⟨-, -, -, otherServer, otherKnown, rfl⟩ :=
      Strategy.decide?_eq_retryWithClockSkew_iff.mp otherDecided
    rw [ServiceFailure.serverTime?_withClockOffset, known] at otherKnown
    cases otherKnown
    rfl
  · intro nowPlain serverPlain
    have goneBack := Instant.sub?_since nowPlain serverPlain
    refine ⟨goneBack, fun positive uncertain => ?_⟩
    apply ServiceFailure.isClockSkew?_withClockOffset_eq_false uncertain known goneBack
    rwa [Instant.nanosecondsSince_self]
  · intro year_nonneg year_le
    obtain ⟨estimate, goneBack⟩ := Instant.exists_sub?_since now year_nonneg year_le
    have residual := Instant.nanosecondsSince_sub?_since goneBack
    refine ⟨⟨estimate, goneBack, ?_⟩, fun large uncertain => ?_⟩
    · simp only [nanosecondsPerSecond]
      omega
    · apply ServiceFailure.isClockSkew?_withClockOffset_eq_false uncertain known goneBack
      simp only [nanosecondsPerSecond] at large
      omega

/-- The middle of the leap second at the end of 2016. -/
def leapSecondOf2016 : Instant := (Instant.ofParts? 17166 86399 1500000000).get rfl

/-- A call that the service refused two hours earlier by its own clock. -/
def refusedEarlier : ServiceFailure :=
  ServiceFailure.ofAnswer "" 403 (some "Sat, 31 Dec 2016 22:00:00 GMT")

theorem correction_cures_skew_leapSecond :
    ∃ skew cured,
      Strategy.standard.decide? 1 refusedEarlier leapSecondOf2016 =
        some (.retryWithClockSkew Delay.zero skew) ∧
      skew.nanoseconds = 7200500000000 ∧
      ServiceFailure.Draft.build { refusedEarlier.toDraft with clockOffset := skew } =
        .ok cured ∧
      cured.isClockSkew? leapSecondOf2016 = some false := by
  have decided : Strategy.standard.decide? 1 refusedEarlier leapSecondOf2016 =
      some (.retryWithClockSkew Delay.zero
        ((Span.ofNanoseconds? 7200500000000).get rfl)) := by
    decide +kernel
  obtain ⟨-, -, server, cured, known, -, built, -, aroundLeap⟩ := correction_cures_skew decided
  have year : server.date.year = 2016 := by
    have read : refusedEarlier.serverTime?.map (·.date.year) = some 2016 := by
      decide +kernel
    rw [known] at read
    exact Option.some.inj read
  have cures := (aroundLeap (by omega) (by omega)).2 (by decide) (by decide)
  exact ⟨_, cured, decided, rfl, built, cures⟩

end Retry

end Triage
