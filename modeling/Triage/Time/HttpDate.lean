import Triage.Time.Instant
import Triage.Text.Scan

/-!
# Dates of HTTP headers, written

A date is written as `Sat, 09 Mar 2024 16:20:00 GMT`: always in universal time,
with the day and the time of day in two digits each.  A leap second is written as
second 60.  A year outside `0 … 9999` carries its sign.
-/

namespace Triage.Time.HttpDate

open Triage.Text

/-- The short names of the days of the week. -/
def weekdayNames : List String := ["Mon", "Tue", "Wed", "Thu", "Fri", "Sat", "Sun"]

/-- The short names of the months. -/
def monthNames : List String :=
  ["Jan", "Feb", "Mar", "Apr", "May", "Jun", "Jul", "Aug", "Sep", "Oct", "Nov", "Dec"]

/-- The letters of a name in a list of names. -/
def nameLetters (names : List String) (index : Nat) : List Char :=
  ((names[index]?).getD "").toList

/-- Four digits for the years `0 … 9999`, a sign and at least four digits for all
others. -/
def yearLetters (year : Int) : List Char :=
  if 0 ≤ year ∧ year ≤ 9999 then
    fourDigits year.toNat
  else
    (if year < 0 then '-' else '+') :: paddedDecimal 4 year.natAbs

/-- The second of the minute, 60 inside a leap second. -/
def secondOfMinute (instant : Instant) : Nat :=
  instant.second % 60 + if instant.IsLeap then 1 else 0

/-- The letters of a written date. -/
def letters (instant : Instant) : List Char :=
  let date := instant.date
  nameLetters weekdayNames (weekdayIndex instant.day) ++ ", ".toList ++
    twoDigits date.day ++ [' '] ++
    nameLetters monthNames (date.month - 1) ++ [' '] ++
    yearLetters date.year ++ [' '] ++
    twoDigits (instant.second / 3600) ++ [':'] ++
    twoDigits (instant.second / 60 % 60) ++ [':'] ++
    twoDigits (secondOfMinute instant) ++ " GMT".toList

/-- The text of an instant. -/
def write (instant : Instant) : String := String.ofList (letters instant)

end Triage.Time.HttpDate
