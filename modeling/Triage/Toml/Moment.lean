import Triage.Text.Scan
import Triage.Time.Calendar

/-!
# Dates and times in TOML

A moment is a date, a time of day, or both with an optional offset.  It is kept as
its normal text: a `T` between date and time, at most nine digits of the fraction
and no zeros at its end, `Z` for universal time.
-/

namespace Triage.Toml

open Triage.Text Triage.Time

/-- A part of a moment: its digits, its bounds, and a text when it lies between them. -/
def bounded? (digits low high : Nat) (text : List Char) : Option (Nat × List Char) :=
  (number? digits digits text).bind fun (number, rest) =>
    if low ≤ number ∧ number ≤ high then some (number, rest) else none

/-- The digits of a fraction of a second, as they are kept. -/
def normalFraction (digits : List Char) : List Char :=
  let kept := ((digits.take 9).reverse.dropWhile (· = '0')).reverse
  if kept.isEmpty then [] else '.' :: kept

/-- The fraction of a second, when there is one. -/
def fraction? : List Char → Option (List Char × List Char)
  | '.' :: rest =>
      (digits? 1 rest.length rest).map fun (digits, rest) => (normalFraction digits, rest)
  | text => some ([], text)

/-- A time of day. -/
def timeOfDay? (text : List Char) : Option (List Char × List Char) := do
  let (hour, rest) ← bounded? 2 0 23 text
  let rest ← symbol? ':' rest
  let (minute, rest) ← bounded? 2 0 59 rest
  let rest ← symbol? ':' rest
  let (second, rest) ← bounded? 2 0 60 rest
  let (fraction, rest) ← fraction? rest
  return (twoDigits hour ++ [':'] ++ twoDigits minute ++ [':'] ++ twoDigits second ++ fraction,
    rest)

/-- A date of the calendar. -/
def fullDate? (text : List Char) : Option (List Char × List Char) := do
  let (year, rest) ← bounded? 4 0 9999 text
  let rest ← symbol? '-' rest
  let (month, rest) ← bounded? 2 1 12 rest
  let rest ← symbol? '-' rest
  let (day, rest) ← bounded? 2 1 31 rest
  if (Date.mk year month day).isValid then
    some (fourDigits year ++ ['-'] ++ twoDigits month ++ ['-'] ++ twoDigits day, rest)
  else
    none

/-- The offset from universal time, when there is one. -/
def offset? : List Char → Option (List Char × List Char)
  | [] => some ([], [])
  | c :: rest =>
      if c = 'Z' ∨ c = 'z' then
        some (['Z'], rest)
      else if c = '+' ∨ c = '-' then do
        let (hour, rest) ← bounded? 2 0 23 rest
        let rest ← symbol? ':' rest
        let (minute, rest) ← bounded? 2 0 59 rest
        let sign := if hour = 0 ∧ minute = 0 then '+' else c
        some (sign :: twoDigits hour ++ [':'] ++ twoDigits minute, rest)
      else
        some ([], c :: rest)

/-- The text starts like a time: two digits that are an hour, and a colon. -/
def startsLikeTime (text : List Char) : Bool :=
  ((bounded? 2 0 23 text).bind fun (_, rest) => symbol? ':' rest).isSome

/-- The text starts like a date: four digits and a dash. -/
def startsLikeDate (text : List Char) : Bool :=
  ((number? 4 4 text).bind fun (_, rest) => symbol? '-' rest).isSome

/-- A date with the time of day that may follow it. -/
def dateAndTime? (text : List Char) : Option (List Char × List Char) := do
  let (date, rest) ← fullDate? text
  match rest with
  | [] => some (date, [])
  | c :: later =>
      if (c = 'T' ∨ c = 't' ∨ c = ' ') ∧ startsLikeTime later then do
        let (time, rest) ← timeOfDay? later
        let (offset, rest) ← offset? rest
        some (date ++ ['T'] ++ time ++ offset, rest)
      else
        some (date, rest)

/-- The moment that a whole text writes. -/
def moment? (text : List Char) : Option (List Char) :=
  match dateAndTime? text with
  | some (moment, rest) => if rest.isEmpty then some moment else none
  | none =>
      (timeOfDay? text).bind fun (moment, rest) =>
        if rest.isEmpty then some moment else none

end Triage.Toml
