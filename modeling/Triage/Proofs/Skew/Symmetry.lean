import Triage.Proofs.Skew.Judgement
import Triage.Proofs.Time.Difference

/-!
# Skew from either side

The difference of two clocks is put together from their days and their times of day, and
neither part nor their sum comes near the ends of the range of spans.  A leap second counts
by the order of the times of day alone, with the sign of that order, so the difference
changes its sign with the sides inside leap seconds too.  Outside leap seconds differences
add up along a third clock.
-/

namespace Triage

open Triage.Time

namespace Time

theorem Span.abs_neg (span : Span) : (-span).abs = span.abs := by
  ext
  rw [Span.abs_nanoseconds, Span.abs_nanoseconds, Span.neg_nanoseconds, Int.natAbs_neg]

namespace Instant

open Calendar

/-! ## Days and times of day -/

/-- Nanoseconds between the midnights before two instants. -/
def daysSince (later earlier : Instant) : Int :=
  (later.day - earlier.day) * nanosecondsPerDay

/-- Nanoseconds between the times of day of two instants, with the leap second that counts
as elapsed between them. -/
def timeOfDaySince (later earlier : Instant) : Int :=
  (later.second - earlier.second + leapElapsed later earlier) * nanosecondsPerSecond +
    (later.nanosecond - earlier.nanosecond)

theorem nanosecondsSince_eq (later earlier : Instant) :
    later.nanosecondsSince earlier = later.daysSince earlier + later.timeOfDaySince earlier := by
  simp only [nanosecondsSince, unixNanoseconds, unixSeconds, daysSince, timeOfDaySince,
    nanosecondsPerSecond, secondsPerDay, nanosecondsPerDay]
  omega

/-- The days between two instants of the calendar are a span. -/
theorem exists_span_daysSince (later earlier : Instant) :
    ∃ days, Span.ofNanoseconds? (later.daysSince earlier) = some days := by
  have laterFirst := later.first_le
  have laterLast := later.le_last
  have earlierFirst := earlier.first_le
  have earlierLast := earlier.le_last
  refine ⟨⟨later.daysSince earlier, ?_, ?_⟩, Span.ofNanoseconds?_eq_some_iff.mpr rfl⟩
  all_goals
    simp only [daysSince, Span.limit, firstDay, lastDay, nanosecondsPerDay] at *
    omega

/-- The times of day of two instants are a span apart. -/
theorem exists_span_timeOfDaySince (later earlier : Instant) :
    ∃ timeOfDay, Span.ofNanoseconds? (later.timeOfDaySince earlier) = some timeOfDay := by
  have laterSecond := later.second_lt
  have laterNanosecond := later.nanosecond_lt
  have earlierSecond := earlier.second_lt
  have earlierNanosecond := earlier.nanosecond_lt
  have elapsed := leapElapsed_bounds later earlier
  refine ⟨⟨later.timeOfDaySince earlier, ?_, ?_⟩, Span.ofNanoseconds?_eq_some_iff.mpr rfl⟩
  all_goals
    simp only [timeOfDaySince, Span.limit, nanosecondsPerSecond, secondsPerDay] at *
    omega

/-! ## The other side -/

/-- From the other side the same leap second counts against the difference. -/
theorem leapElapsed_swap (first second : Instant) :
    leapElapsed second first = -leapElapsed first second := by
  rcases Nat.lt_trichotomy first.second second.second with before | same | after
  · rw [leapElapsed, leapElapsed, if_pos before, if_neg (Nat.lt_asymm before), if_pos before]
    split
    · rfl
    · rfl
  · simp [leapElapsed, same]
  · rw [leapElapsed, leapElapsed, if_neg (Nat.lt_asymm after), if_pos after, if_pos after]
    split
    · rfl
    · rfl

theorem nanosecondsSince_swap (first second : Instant) :
    second.nanosecondsSince first = -first.nanosecondsSince second := by
  rw [nanosecondsSince, nanosecondsSince, leapElapsed_swap first second, Int.neg_mul]
  omega

theorem since_swap (first second : Instant) : second.since first = -first.since second :=
  Span.ext (nanosecondsSince_swap first second)

/-- Outside leap seconds differences add up. -/
theorem nanosecondsSince_add {first second third : Instant} (firstPlain : ¬ first.IsLeap)
    (secondPlain : ¬ second.IsLeap) (thirdPlain : ¬ third.IsLeap) :
    first.nanosecondsSince second + second.nanosecondsSince third =
      first.nanosecondsSince third := by
  rw [nanosecondsSince_of_not_isLeap firstPlain secondPlain,
    nanosecondsSince_of_not_isLeap secondPlain thirdPlain,
    nanosecondsSince_of_not_isLeap firstPlain thirdPlain]
  omega

end Instant

end Time

namespace Skew

/-- Two clocks are skewed by a threshold whichever of them is the client's. -/
theorem isClockSkewed_swap (client server : Instant) (threshold : Span) :
    isClockSkewed server client threshold = isClockSkewed client server threshold := by
  rw [isClockSkewed, isClockSkewed, clockSkew, Instant.since_swap client server, Span.abs_neg]
  rfl

/-- The skew of two clocks, leap seconds included, is found from their days and their times
of day without leaving the range of spans, and it is opposite from the other side.  So it
does not matter to a threshold which clock is the client's, and a smaller threshold is
reached wherever a larger one is.  Outside leap seconds skews add up. -/
theorem skew_opposes_and_adds (client server : Instant) :
    (∃ days timeOfDay,
      Span.ofNanoseconds? (client.daysSince server) = some days ∧
      Span.ofNanoseconds? (client.timeOfDaySince server) = some timeOfDay ∧
      Span.ofNanoseconds? (days.nanoseconds + timeOfDay.nanoseconds) =
        some (clockSkew client server)) ∧
    clockSkew client server = -clockSkew server client ∧
    (∀ threshold, isClockSkewed client server threshold = isClockSkewed server client threshold) ∧
    (∀ small large, small ≤ large → isClockSkewed client server large = true →
      isClockSkewed client server small = true) ∧
    (∀ other : Instant, ¬ client.IsLeap → ¬ server.IsLeap → ¬ other.IsLeap →
      Span.ofNanoseconds? ((clockSkew client server).nanoseconds +
        (clockSkew server other).nanoseconds) = some (clockSkew client other)) := by
  refine ⟨?_, Instant.since_swap server client, isClockSkewed_swap server client, ?_, ?_⟩
  · obtain ⟨days, isDays⟩ := Instant.exists_span_daysSince client server
    obtain ⟨timeOfDay, isTimeOfDay⟩ := Instant.exists_span_timeOfDaySince client server
    refine ⟨days, timeOfDay, isDays, isTimeOfDay, ?_⟩
    rw [Span.ofNanoseconds?_eq_some_iff] at isDays isTimeOfDay ⊢
    rw [isDays, isTimeOfDay]
    exact Instant.nanosecondsSince_eq client server
  · intro small large le
    exact isClockSkewed_of_threshold_le le
  · intro other clientPlain serverPlain otherPlain
    rw [Span.ofNanoseconds?_eq_some_iff]
    exact (Instant.nanosecondsSince_add clientPlain serverPlain otherPlain).symm

/-- The middle of a leap second at the end of a day. -/
def lateLeap : Instant := (Instant.ofParts? 16616 86399 1500000000).get rfl

/-- A quarter of a second into the next day. -/
def nextDay : Instant := (Instant.ofParts? 16617 0 250000000).get rfl

/-- Two hours into the next day. -/
def nextMorning : Instant := (Instant.ofParts? 16617 7200 0).get rfl

/-- The leap second is not counted on the way to an earlier time of day, so the next day seems
to start before it is over, from either side. -/
theorem skew_opposes_and_adds_lateLeap :
    (lateLeap.IsLeap ∧ (clockSkew nextDay lateLeap).nanoseconds = -250000000 ∧
      clockSkew lateLeap nextDay = -clockSkew nextDay lateLeap ∧
      isClockSkewed lateLeap nextDay ⟨250000000, by decide, by decide⟩ = true) ∧
    (¬ nextDay.IsLeap ∧ ¬ nextMorning.IsLeap ∧
      isClockSkewed nextDay nextMorning Span.zero = true ∧
      Span.ofNanoseconds? ((clockSkew nextDay nextMorning).nanoseconds +
        (clockSkew nextMorning nextDay).nanoseconds) = some Span.zero) := by
  obtain ⟨-, opposite, either, -, -⟩ := skew_opposes_and_adds lateLeap nextDay
  obtain ⟨-, -, -, antitone, adds⟩ := skew_opposes_and_adds nextDay nextMorning
  have self : clockSkew nextDay nextDay = Span.zero := by decide
  refine ⟨⟨by decide, by decide, opposite, ?_⟩, by decide, by decide, ?_, ?_⟩
  · rw [either]
    decide
  · exact antitone Span.zero Span.fourMinutes (by decide) (by decide)
  · rw [← self]
    exact adds nextDay (by decide) (by decide) (by decide)

end Skew

end Triage
