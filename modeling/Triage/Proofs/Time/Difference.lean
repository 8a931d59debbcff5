import Triage.Proofs.Time.Calendar
import Triage.Proofs.Time.Shift

/-!
# Going back by a difference

A clock that goes back by its difference to another clock arrives at the other
clock's time.  This is exact while neither clock shows a leap second.  Otherwise the
leap second that the difference counts, the one that going back crosses and the one
between the result and the other clock need not cancel, but what remains is at most
two seconds.
-/

namespace Triage.Time.Instant

open Calendar

/-- Between times outside leap seconds no leap second counts as elapsed. -/
theorem nanosecondsSince_of_not_isLeap {later earlier : Instant} (laterPlain : ¬ later.IsLeap)
    (earlierPlain : ¬ earlier.IsLeap) :
    later.nanosecondsSince earlier = later.unixNanoseconds - earlier.unixNanoseconds := by
  simp [nanosecondsSince, leapElapsed, laterPlain, earlierPlain]

@[simp]
theorem nanosecondsSince_self (instant : Instant) : instant.nanosecondsSince instant = 0 := by
  simp [nanosecondsSince, leapElapsed]

/-- At most one leap second counts as elapsed, in either direction. -/
theorem leapElapsed_bounds (later earlier : Instant) :
    -1 ≤ leapElapsed later earlier ∧ leapElapsed later earlier ≤ 1 := by
  unfold leapElapsed
  split <;> split <;> (try split) <;> omega

/-- Only the later time's own leap second counts against the difference. -/
theorem isLeap_of_leapElapsed_neg {later earlier : Instant}
    (negative : leapElapsed later earlier < 0) : later.IsLeap := by
  unfold leapElapsed at negative
  split at negative
  · split at negative <;> omega
  · split at negative
    · split at negative
      · assumption
      · omega
    · omega

/-- Outside leap seconds going back by the difference is exact. -/
theorem sub?_since {now server : Instant} (nowPlain : ¬ now.IsLeap)
    (serverPlain : ¬ server.IsLeap) : now.sub? (now.since server) = some server := by
  refine (addNanoseconds?_eq_some_iff nowPlain).mpr ⟨serverPlain, ?_⟩
  change server.unixNanoseconds = now.unixNanoseconds + -now.nanosecondsSince server
  rw [nanosecondsSince_of_not_isLeap nowPlain serverPlain]
  omega

/-- Outside leap seconds going back by a span takes it from the difference. -/
theorem nanosecondsSince_sub? {now server estimate : Instant} {span : Span}
    (nowPlain : ¬ now.IsLeap) (serverPlain : ¬ server.IsLeap)
    (goneBack : now.sub? span = some estimate) :
    estimate.nanosecondsSince server = now.nanosecondsSince server - span.nanoseconds := by
  obtain ⟨estimatePlain, number⟩ := (addNanoseconds?_eq_some_iff nowPlain).mp goneBack
  rw [nanosecondsSince_of_not_isLeap estimatePlain serverPlain,
    nanosecondsSince_of_not_isLeap nowPlain serverPlain, number]
  omega

/-- Leap seconds leave at most two seconds after going back by the difference. -/
theorem nanosecondsSince_sub?_since {now server estimate : Instant}
    (goneBack : now.sub? (now.since server) = some estimate) :
    -(2 * 1000000000) ≤ estimate.nanosecondsSince server ∧
      estimate.nanosecondsSince server ≤ 2 * 1000000000 := by
  obtain ⟨number, insideLeap⟩ := unixNanoseconds_addNanoseconds? goneBack
  have outward := leapElapsed_bounds now server
  have back := leapElapsed_bounds estimate server
  by_cases crosses : now.CrossesLeap (-(now.since server).nanoseconds)
  · -- Three seconds would need an estimate inside the leap second that was crossed.
    have backNotNegative : ¬ leapElapsed estimate server < 0 := fun negative =>
      (insideLeap (isLeap_of_leapElapsed_neg negative)).2 crosses
    rw [if_pos crosses] at number
    simp only [nanosecondsSince, since, number, nanosecondsPerSecond]
    omega
  · rw [if_neg crosses] at number
    simp only [nanosecondsSince, since, number, nanosecondsPerSecond]
    omega

theorem date_year (instant : Instant) : instant.date.year = yearOfDay instant.day := rfl

/-- Going back to a year of four digits stays in the calendar. -/
theorem exists_sub?_since (now : Instant) {server : Instant}
    (year_nonneg : 0 ≤ server.date.year) (year_le : server.date.year ≤ 9999) :
    ∃ estimate, now.sub? (now.since server) = some estimate := by
  rw [date_year] at year_nonneg year_le
  have days := day_bounds_of_year_bounds year_nonneg year_le
  have elapsed := leapElapsed_bounds now server
  have second_lt := server.second_lt
  have nanosecond_lt := server.nanosecond_lt
  have target : now.unixNanoseconds + -(now.since server).nanoseconds =
      server.unixNanoseconds - leapElapsed now server * 1000000000 := by
    simp only [since, nanosecondsSince, nanosecondsPerSecond]
    omega
  apply exists_addNanoseconds?
  all_goals
    rw [target]
    simp only [unixNanoseconds, unixSeconds, yearStart, firstDay, lastDay,
      nanosecondsPerSecond, secondsPerDay, nanosecondsPerDay] at *
    omega

end Triage.Time.Instant
