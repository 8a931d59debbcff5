/-!
# The proleptic Gregorian calendar

Days are numbered from 1 January 1970.  A date's number is the number of the
first day of its year, plus the lengths of its earlier months, plus its day
counted from zero; the way back finds the year first, then the month.  Instants
live in the years from `firstYear` to `lastYear`.
-/

namespace Triage.Time

/-- A day of the calendar, the month and the day counted from one. -/
structure Date where
  year : Int
  month : Nat
  day : Nat
deriving DecidableEq, Repr

namespace Calendar

/-- The first year that instants reach. -/
def firstYear : Int := -262143

/-- The last year that instants reach. -/
def lastYear : Int := 262142

/-- Every fourth year is a leap year, except centuries not divisible by 400. -/
def isLeapYear (year : Int) : Bool :=
  year % 4 = 0 && (year % 100 ≠ 0 || year % 400 = 0)

/-- The number of the first day of a year. -/
def yearStart (year : Int) : Int :=
  365 * year + (year + 3) / 4 - (year + 99) / 100 + (year + 399) / 400 - 719528

/-- The lengths of the twelve months. -/
def monthLengths (leap : Bool) : List Nat :=
  [31, if leap then 29 else 28, 31, 30, 31, 30, 31, 31, 30, 31, 30, 31]

/-- The length of a month, zero for a number that is no month. -/
def monthLength (leap : Bool) : (month : Nat) → Nat
  | 0 => 0
  | month + 1 => ((monthLengths leap)[month]?).getD 0

/-- The days of a year before a month. -/
def monthStart (leap : Bool) (month : Nat) : Nat :=
  ((monthLengths leap).take (month - 1)).foldl (· + ·) 0

/-- The year of a day: a linear estimate is at most one year off. -/
def yearOfDay (day : Int) : Int :=
  let estimate := (400 * (day + 719528)) / 146097
  if day < yearStart estimate then
    estimate - 1
  else if yearStart (estimate + 1) ≤ day then
    estimate + 1
  else
    estimate

/-- The month, counted from `month`, and the day, counted from one, that lie
`offset` days after the first of `month`. -/
def monthAndDay (month : Nat) : List Nat → (offset : Nat) → Nat × Nat
  | [], offset => (month, offset + 1)
  | length :: later, offset =>
      if offset < length then
        (month, offset + 1)
      else
        monthAndDay (month + 1) later (offset - length)

/-- The number of the first day that instants reach. -/
def firstDay : Int := -96465292

/-- The number of the last day that instants reach. -/
def lastDay : Int := 95026236

theorem firstDay_eq : firstDay = yearStart firstYear := by decide

theorem lastDay_eq : lastDay = yearStart (lastYear + 1) - 1 := by decide

end Calendar

namespace Date

open Calendar

/-- A date is valid when its month and its day of the month exist. -/
def isValid (date : Date) : Bool :=
  1 ≤ date.day && date.day ≤ monthLength (isLeapYear date.year) date.month

/-- The number of a date, counted from 1 January 1970. -/
def dayNumber (date : Date) : Int :=
  yearStart date.year + monthStart (isLeapYear date.year) date.month + date.day - 1

/-- The date with a given number. -/
def ofDayNumber (day : Int) : Date :=
  let year := yearOfDay day
  let (month, dayOfMonth) :=
    monthAndDay 1 (monthLengths (isLeapYear year)) (day - yearStart year).toNat
  ⟨year, month, dayOfMonth⟩

end Date

/-- The place of a day in its week, counted from Monday as zero. -/
def weekdayIndex (day : Int) : Nat := ((day + 3) % 7).toNat

end Triage.Time
