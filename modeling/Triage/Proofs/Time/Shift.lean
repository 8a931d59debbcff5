import Triage.Time.Instant

/-!
# Shifting instants

Outside leap seconds an instant is its number of nanoseconds since 1970, and
shifting it adds to that number.  Inside a leap second a shift to a later second
crosses the rest of the leap second, which that number does not count.
-/

namespace Triage.Time.Instant

open Calendar

/-- Nanoseconds in one day without leap seconds. -/
abbrev nanosecondsPerDay : Int := 86400 * 1000000000

/-! ## Parts -/

theorem ofParts?_eq_some_iff {day : Int} {second nanosecond : Nat} {result : Instant} :
    ofParts? day second nanosecond = some result ↔
      result.day = day ∧ result.second = second ∧ result.nanosecond = nanosecond := by
  constructor
  · intro found
    unfold ofParts? at found
    split at found
    · cases found
      exact ⟨rfl, rfl, rfl⟩
    · contradiction
  · rintro ⟨rfl, rfl, rfl⟩
    exact dif_pos ⟨result.first_le, result.le_last, result.second_lt, result.nanosecond_lt,
      result.leap_only⟩

/-- Parts in range make an instant. -/
theorem exists_ofParts? {day : Int} {second nanosecond : Nat} (first_le : firstDay ≤ day)
    (le_last : day ≤ lastDay) (second_lt : second < secondsPerDay)
    (nanosecond_lt : nanosecond < 2 * nanosecondsPerSecond)
    (leap_only : nanosecondsPerSecond ≤ nanosecond → second % 60 = 59) :
    ∃ result, ofParts? day second nanosecond = some result :=
  ⟨⟨day, second, nanosecond, first_le, le_last, second_lt, nanosecond_lt, leap_only⟩,
    ofParts?_eq_some_iff.mpr ⟨rfl, rfl, rfl⟩⟩

/-! ## Shifts -/

/-- An offset from a midnight leads to the instant outside leap seconds that has the
number asked for. -/
theorem ofDayOffset?_eq_some_iff {day nanoseconds : Int} {result : Instant} :
    ofDayOffset? day nanoseconds = some result ↔
      ¬ result.IsLeap ∧
        result.unixNanoseconds = day * nanosecondsPerDay + nanoseconds := by
  have second_lt := result.second_lt
  rw [ofDayOffset?, ofParts?_eq_some_iff]
  simp only [IsLeap, unixNanoseconds, unixSeconds, nanosecondsPerSecond, secondsPerDay,
    nanosecondsPerDay] at *
  constructor
  · rintro ⟨sameDay, sameSecond, sameNanosecond⟩
    omega
  · rintro ⟨notLeap, sameNumber⟩
    omega

/-- An offset that stays in the calendar leads to an instant. -/
theorem exists_ofDayOffset? {day nanoseconds : Int}
    (first_le : firstDay * nanosecondsPerDay ≤ day * nanosecondsPerDay + nanoseconds)
    (lt_last : day * nanosecondsPerDay + nanoseconds <
      (lastDay + 1) * nanosecondsPerDay) :
    ∃ result, ofDayOffset? day nanoseconds = some result := by
  unfold ofDayOffset?
  simp only [firstDay, lastDay, nanosecondsPerDay] at first_le lt_last
  apply exists_ofParts?
  all_goals
    simp only [firstDay, lastDay, nanosecondsPerSecond, secondsPerDay]
    omega

/-- Outside leap seconds a shift adds to the number of an instant. -/
theorem addNanoseconds?_eq_some_iff {instant result : Instant} {shift : Int}
    (plain : ¬ instant.IsLeap) :
    instant.addNanoseconds? shift = some result ↔
      ¬ result.IsLeap ∧ result.unixNanoseconds = instant.unixNanoseconds + shift := by
  rw [addNanoseconds?, if_neg plain, ofDayOffset?_eq_some_iff]
  simp only [unixNanoseconds, unixSeconds, nanosecondsPerSecond, secondsPerDay,
    nanosecondsPerDay]
  constructor
  · rintro ⟨resultPlain, number⟩
    exact ⟨resultPlain, by omega⟩
  · rintro ⟨resultPlain, number⟩
    exact ⟨resultPlain, by omega⟩

/-- The shift leads from inside a leap second to a later second. -/
def CrossesLeap (instant : Instant) (shift : Int) : Prop :=
  instant.IsLeap ∧ 2 * (nanosecondsPerSecond : Int) ≤ instant.nanosecond + shift

instance (instant : Instant) (shift : Int) : Decidable (instant.CrossesLeap shift) :=
  inferInstanceAs (Decidable (_ ∧ _))

/-- The shift keeps an instant inside its leap second or the second before it. -/
def StaysInLeap (instant : Instant) (shift : Int) : Prop :=
  instant.IsLeap ∧ -nanosecondsPerSecond < shift ∧
    instant.nanosecond + shift < 2 * nanosecondsPerSecond

instance (instant : Instant) (shift : Int) : Decidable (instant.StaysInLeap shift) :=
  inferInstanceAs (Decidable (_ ∧ _))

theorem exists_addNanoseconds?_of_staysInLeap {instant : Instant} {shift : Int}
    (stays : instant.StaysInLeap shift) :
    ∃ result, instant.addNanoseconds? shift = some result := by
  obtain ⟨leap, forward⟩ := stays
  have leap_le : nanosecondsPerSecond ≤ instant.nanosecond := leap
  rw [addNanoseconds?, if_pos leap, if_pos forward]
  apply exists_ofParts? instant.first_le instant.le_last instant.second_lt
  · simp only [nanosecondsPerSecond] at forward ⊢
    omega
  · exact fun _ => instant.leap_only leap

/-- Going back by nothing stays where it is, inside leap seconds too. -/
theorem sub?_zero (instant : Instant) : instant.sub? Span.zero = some instant := by
  rw [sub?]
  by_cases leap : instant.IsLeap
  · have nanosecond_lt := instant.nanosecond_lt
    have stays : -(nanosecondsPerSecond : Int) < -Span.zero.nanoseconds ∧
        instant.nanosecond + -Span.zero.nanoseconds < 2 * nanosecondsPerSecond := by
      simp only [Span.zero, nanosecondsPerSecond] at nanosecond_lt ⊢
      omega
    rw [addNanoseconds?, if_pos leap, if_pos stays, ofParts?_eq_some_iff]
    simp [Span.zero]
  · rw [addNanoseconds?_eq_some_iff leap]
    simp [Span.zero, leap]

/-- Every shift that does not stay in a leap second counts from a midnight. -/
theorem addNanoseconds?_of_not_staysInLeap {instant : Instant} {shift : Int}
    (leaves : ¬ instant.StaysInLeap shift) :
    instant.addNanoseconds? shift =
      ofDayOffset? instant.day (instant.second * nanosecondsPerSecond + instant.nanosecond +
        shift - (if instant.CrossesLeap shift then (nanosecondsPerSecond : Int) else 0)) := by
  have nanosecond_lt := instant.nanosecond_lt
  by_cases leap : instant.IsLeap
  · rw [addNanoseconds?, if_pos leap]
    simp only [StaysInLeap, CrossesLeap, leap, true_and] at leaves ⊢
    rw [if_neg leaves]
    simp only [nanosecondsPerSecond] at *
    split
    · rw [if_pos (by omega)]
      congr 1
      omega
    · rw [if_neg (by omega), Int.sub_zero]
  · rw [addNanoseconds?, if_neg leap, if_neg fun crosses => leap crosses.1, Int.sub_zero]

/-- A shift adds to the number of an instant, less the second that is crossed.  Only
a result in the second of a leap second may be inside it. -/
theorem unixNanoseconds_addNanoseconds? {instant result : Instant} {shift : Int}
    (shifted : instant.addNanoseconds? shift = some result) :
    result.unixNanoseconds = instant.unixNanoseconds + shift -
        (if instant.CrossesLeap shift then (nanosecondsPerSecond : Int) else 0) ∧
      (result.IsLeap → result.second = instant.second ∧ ¬ instant.CrossesLeap shift) := by
  by_cases stays : instant.StaysInLeap shift
  · obtain ⟨leap, forward⟩ := stays
    rw [addNanoseconds?, if_pos leap, if_pos forward] at shifted
    obtain ⟨sameDay, sameSecond, moved⟩ := ofParts?_eq_some_iff.mp shifted
    simp only [CrossesLeap, IsLeap, unixNanoseconds, unixSeconds, nanosecondsPerSecond,
      secondsPerDay] at *
    omega
  · rw [addNanoseconds?_of_not_staysInLeap stays] at shifted
    obtain ⟨resultPlain, number⟩ := ofDayOffset?_eq_some_iff.mp shifted
    refine ⟨?_, fun leap => absurd leap resultPlain⟩
    rw [number]
    simp only [unixNanoseconds, unixSeconds, nanosecondsPerSecond, secondsPerDay,
      nanosecondsPerDay]
    omega

/-! ## Leaving the calendar -/

/-- A number of nanoseconds since the start of 1970 that no plain instant has. -/
def LeavesCalendar (nanoseconds : Int) : Prop :=
  nanoseconds < firstDay * nanosecondsPerDay ∨ (lastDay + 1) * nanosecondsPerDay ≤ nanoseconds

instance (nanoseconds : Int) : Decidable (LeavesCalendar nanoseconds) :=
  inferInstanceAs (Decidable (_ ∨ _))

theorem not_leavesCalendar_of_not_isLeap {instant : Instant} (plain : ¬ instant.IsLeap) :
    ¬ LeavesCalendar instant.unixNanoseconds := by
  have first_le := instant.first_le
  have le_last := instant.le_last
  have second_lt := instant.second_lt
  simp only [LeavesCalendar, IsLeap, unixNanoseconds, unixSeconds, firstDay, lastDay,
    nanosecondsPerSecond, secondsPerDay, nanosecondsPerDay] at *
  omega

theorem ofDayOffset?_eq_none_iff {day nanoseconds : Int} :
    ofDayOffset? day nanoseconds = none ↔
      LeavesCalendar (day * nanosecondsPerDay + nanoseconds) := by
  constructor
  · intro missing
    apply Decidable.byContradiction
    intro stays
    rw [LeavesCalendar, not_or, Int.not_lt, Int.not_le] at stays
    obtain ⟨result, found⟩ := exists_ofDayOffset? stays.1 stays.2
    rw [found] at missing
    contradiction
  · intro leaves
    rw [Option.eq_none_iff_forall_ne_some]
    intro result found
    obtain ⟨resultPlain, number⟩ := ofDayOffset?_eq_some_iff.mp found
    rw [← number] at leaves
    exact not_leavesCalendar_of_not_isLeap resultPlain leaves

/-- A shift that stays in the leap second never leaves the calendar; every other one
does when its number, less the second that is crossed, is outside the days. -/
theorem addNanoseconds?_eq_none_iff {instant : Instant} {shift : Int} :
    instant.addNanoseconds? shift = none ↔
      ¬ instant.StaysInLeap shift ∧
        LeavesCalendar (instant.unixNanoseconds + shift -
          (if instant.CrossesLeap shift then (nanosecondsPerSecond : Int) else 0)) := by
  by_cases stays : instant.StaysInLeap shift
  · obtain ⟨result, found⟩ := exists_addNanoseconds?_of_staysInLeap stays
    simp [found, stays]
  · rw [addNanoseconds?_of_not_staysInLeap stays, ofDayOffset?_eq_none_iff,
      and_iff_right stays]
    apply iff_of_eq
    congr 1
    simp only [unixNanoseconds, unixSeconds, nanosecondsPerSecond, secondsPerDay,
      nanosecondsPerDay]
    omega

/-- A shift whose plain sum stays in the calendar leads to an instant. -/
theorem exists_addNanoseconds? {instant : Instant} {shift : Int}
    (first_le : firstDay * nanosecondsPerDay ≤ instant.unixNanoseconds + shift)
    (lt_last : instant.unixNanoseconds + shift < (lastDay + 1) * nanosecondsPerDay) :
    ∃ result, instant.addNanoseconds? shift = some result := by
  apply Option.ne_none_iff_exists'.mp
  intro missing
  obtain ⟨-, leaves⟩ := addNanoseconds?_eq_none_iff.mp missing
  by_cases crosses : instant.CrossesLeap shift
  · -- What is left of the shift behind the crossed second still leads forward.
    have startsInCalendar := instant.first_le
    have forward := crosses.2
    rw [if_pos crosses] at leaves
    simp only [LeavesCalendar, unixNanoseconds, unixSeconds, nanosecondsPerSecond,
      secondsPerDay, firstDay, lastDay, nanosecondsPerDay] at *
    omega
  · rw [if_neg crosses, Int.sub_zero, LeavesCalendar] at leaves
    omega

end Triage.Time.Instant
