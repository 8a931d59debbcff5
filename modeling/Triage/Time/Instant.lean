import Triage.Time.Span
import Triage.Time.Calendar

/-!
# Instants of universal time

An instant is a day, a second of that day and nanoseconds.  Inside a leap
second the nanoseconds run from `10^9` up to `2 * 10^9`, and a leap second only
follows the last second of a minute.

The difference of two instants counts the leap second of the earlier one as
elapsed when the later one lies in a later second of the day.  Shifting an
instant stays inside its leap second while the result still lies there, and
fails outside the calendar.
-/

namespace Triage.Time

open Calendar

/-- Nanoseconds in one second. -/
abbrev nanosecondsPerSecond : Nat := 1000000000

/-- Seconds in one day. -/
abbrev secondsPerDay : Nat := 86400

/-- A moment of universal time.  By `leap_only` a leap second follows the last second of a
minute, as in every date that is read; a moment whose nanoseconds were set to a leap second
behind another second is left out. -/
@[ext]
structure Instant where
  day : Int
  second : Nat
  nanosecond : Nat
  first_le : firstDay ≤ day
  le_last : day ≤ lastDay
  second_lt : second < secondsPerDay
  nanosecond_lt : nanosecond < 2 * nanosecondsPerSecond
  leap_only : nanosecondsPerSecond ≤ nanosecond → second % 60 = 59
deriving DecidableEq

namespace Instant

/-- The instant with these parts, when they are in range. -/
def ofParts? (day : Int) (second nanosecond : Nat) : Option Instant :=
  if valid : firstDay ≤ day ∧ day ≤ lastDay ∧ second < secondsPerDay ∧
      nanosecond < 2 * nanosecondsPerSecond ∧
      (nanosecondsPerSecond ≤ nanosecond → second % 60 = 59) then
    some ⟨day, second, nanosecond, valid.1, valid.2.1, valid.2.2.1, valid.2.2.2.1,
      valid.2.2.2.2⟩
  else
    none

/-- The instant that lies some seconds after the start of 1970, leap seconds not
counted, and some nanoseconds into its second. -/
def ofUnix? (seconds : Int) (nanosecond : Nat) : Option Instant :=
  ofParts? (seconds / secondsPerDay) (seconds % secondsPerDay).toNat nanosecond

/-- Seconds since the start of 1970, leap seconds not counted. -/
def unixSeconds (instant : Instant) : Int :=
  instant.day * secondsPerDay + instant.second

/-- An instant may lie inside a leap second. -/
def IsLeap (instant : Instant) : Prop := nanosecondsPerSecond ≤ instant.nanosecond

instance (instant : Instant) : Decidable instant.IsLeap :=
  inferInstanceAs (Decidable (nanosecondsPerSecond ≤ instant.nanosecond))

/-- The calendar date of an instant. -/
def date (instant : Instant) : Date := Date.ofDayNumber instant.day

/-- Nanoseconds since the start of 1970 when leap seconds are not counted; an
instant inside a leap second falls into the following second. -/
def unixNanoseconds (instant : Instant) : Int :=
  instant.unixSeconds * nanosecondsPerSecond + instant.nanosecond

/-- The leap second that counts as elapsed between the times of day of two
instants, in seconds. -/
def leapElapsed (later earlier : Instant) : Int :=
  if earlier.second < later.second then
    if earlier.IsLeap then 1 else 0
  else if later.second < earlier.second then
    if later.IsLeap then -1 else 0
  else
    0

/-- Nanoseconds from `earlier` to `later`. -/
def nanosecondsSince (later earlier : Instant) : Int :=
  later.unixNanoseconds - earlier.unixNanoseconds +
    leapElapsed later earlier * nanosecondsPerSecond

theorem nanosecondsSince_bounds (later earlier : Instant) :
    -Span.limit ≤ later.nanosecondsSince earlier ∧
      later.nanosecondsSince earlier ≤ Span.limit := by
  have leapBounds : -1 ≤ leapElapsed later earlier ∧ leapElapsed later earlier ≤ 1 := by
    unfold leapElapsed
    split <;> split <;> (try split) <;> omega
  have laterFirst := later.first_le
  have laterLast := later.le_last
  have laterSecond := later.second_lt
  have laterNanosecond := later.nanosecond_lt
  have earlierFirst := earlier.first_le
  have earlierLast := earlier.le_last
  have earlierSecond := earlier.second_lt
  have earlierNanosecond := earlier.nanosecond_lt
  simp only [nanosecondsSince, unixNanoseconds, unixSeconds, Span.limit, firstDay, lastDay,
    nanosecondsPerSecond, secondsPerDay] at *
  omega

/-- The span from `earlier` to `later`. -/
def since (later earlier : Instant) : Span :=
  ⟨later.nanosecondsSince earlier, (nanosecondsSince_bounds later earlier).1,
    (nanosecondsSince_bounds later earlier).2⟩

/-- The instant a number of nanoseconds away, counted from the midnight of a day
in days without leap seconds. -/
def ofDayOffset? (day : Int) (nanoseconds : Int) : Option Instant :=
  let seconds := nanoseconds / nanosecondsPerSecond
  ofParts? (day + seconds / secondsPerDay) (seconds % secondsPerDay).toNat
    (nanoseconds % nanosecondsPerSecond).toNat

/-- The instant `shift` nanoseconds later, when it lies in the calendar.  A leap
second is kept while the result stays in it or in the second before it; it is
crossed like any other second on the way to later times. -/
def addNanoseconds? (instant : Instant) (shift : Int) : Option Instant :=
  let position : Int := instant.second * nanosecondsPerSecond + instant.nanosecond
  if instant.IsLeap then
    if -nanosecondsPerSecond < shift ∧
        instant.nanosecond + shift < 2 * nanosecondsPerSecond then
      ofParts? instant.day instant.second (instant.nanosecond + shift).toNat
    else if 0 < shift then
      ofDayOffset? instant.day (position - nanosecondsPerSecond + shift)
    else
      ofDayOffset? instant.day (position + shift)
  else
    ofDayOffset? instant.day (position + shift)

/-- The instant a span before, when it lies in the calendar. -/
def sub? (instant : Instant) (span : Span) : Option Instant :=
  instant.addNanoseconds? (-span.nanoseconds)

/-- The start of the second in which an instant lies. -/
def startOfSecond (instant : Instant) : Instant where
  day := instant.day
  second := instant.second
  nanosecond := if instant.IsLeap then nanosecondsPerSecond else 0
  first_le := instant.first_le
  le_last := instant.le_last
  second_lt := instant.second_lt
  nanosecond_lt := by split <;> decide
  leap_only := by
    split
    · rename_i leap
      exact fun _ => instant.leap_only leap
    · intro impossible
      simp at impossible

end Instant

end Triage.Time
