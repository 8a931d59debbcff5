import Triage.Time.HttpDate

/-!
# Dates of HTTP headers, read

Reading is more lenient than writing: the day of the week may be missing, the
day may have one digit, names come in any case, years of two and three digits
stand for years near 2000, seconds may be missing, zones other than universal
time are converted, and comments in parentheses may follow.  The day of the week
must fit the date, and the date must exist.
-/

namespace Triage.Time.HttpDate

open Triage.Text

/-- The optional day of the week, which a comma follows directly. -/
def weekday? (text : List Char) : Option (Option Nat × List Char) :=
  match shortName? weekdayNames text with
  | some (index, rest) => (symbol? ',' rest).map fun rest => (some index, rest)
  | none => some (none, text)

/-- A year of two digits lies between 1950 and 2049, one of three digits counts
from 1900. -/
def expandYear (digitCount number : Nat) : Nat :=
  if digitCount = 2 then
    if number < 50 then number + 2000 else number + 1900
  else if digitCount = 3 then
    number + 1900
  else
    number

/-- A year of two or more digits. -/
def year? (text : List Char) : Option (Nat × List Char) :=
  (digits? 2 text.length text).map fun (digits, rest) =>
    (expandYear digits.length (numberOfDigits digits), rest)

/-- The optional seconds; a colon promises them. -/
def seconds? (text : List Char) : Option (Nat × List Char) :=
  match symbol? ':' (skipBlanks text) with
  | some rest => number? 2 2 rest
  | none => some (0, text)

/-- Named zones, in hours from universal time.  A single letter means universal
time, except that `j` is no zone. -/
def namedZone? (name : String) : Option Int :=
  if name = "gmt" ∨ name = "ut" then some 0
  else if name = "edt" then some (-4)
  else if name = "est" ∨ name = "cdt" then some (-5)
  else if name = "cst" ∨ name = "mdt" then some (-6)
  else if name = "mst" ∨ name = "pdt" then some (-7)
  else if name = "pst" then some (-8)
  else if name.length = 1 ∧ name ≠ "j" then some 0
  else none

/-- The direction of a numeric zone. -/
def sign? : List Char → Option (Int × List Char)
  | '+' :: rest => some (1, rest)
  | '-' :: rest => some (-1, rest)
  | _ => none

/-- A zone as a sign and four digits, less than a day from universal time. -/
def numericZone? (text : List Char) : Option (Int × List Char) := do
  let (sign, rest) ← sign? text
  let (hours, rest) ← number? 2 2 rest
  let (minutes, rest) ← number? 2 2 rest
  if minutes < 60 ∧ hours < 24 then
    some (sign * (hours * 60 + minutes : Nat), rest)
  else
    none

/-- The zone, in minutes east of universal time. -/
def zone? (text : List Char) : Option (Int × List Char) :=
  let name := text.takeWhile Char.isAlpha
  if name.isEmpty then
    numericZone? text
  else
    (namedZone? (String.ofList (lowerAscii name))).map fun hours =>
      (hours * 60, text.drop name.length)

/-- Nothing but white space and closed comments follows.  Comments nest to a
depth, and a backslash in a comment takes the next character with it. -/
def onlyComments : (depth : Nat) → List Char → Bool
  | 0, [] => true
  | 0, c :: rest =>
      if c = '(' then onlyComments 1 rest else isBlank c && onlyComments 0 rest
  | _ + 1, [] => false
  | _ + 1, ['\\'] => false
  | depth + 1, '\\' :: _ :: rest => onlyComments (depth + 1) rest
  | depth + 1, c :: rest =>
      if c = '(' then onlyComments (depth + 2) rest
      else if c = ')' then onlyComments depth rest
      else onlyComments (depth + 1) rest

/-- The parts of a date, before they are checked against the calendar. -/
structure Parts where
  weekday : Option Nat
  date : Date
  hour : Nat
  minute : Nat
  second : Nat
  zone : Int
deriving DecidableEq

/-- Read the parts of a date. -/
def parts? (text : List Char) : Option Parts := do
  let (weekday, text) ← weekday? text
  let (day, text) ← number? 1 2 (skipBlanks text)
  let text ← blanks? text
  let (month, text) ← shortName? monthNames text
  let text ← blanks? text
  let (year, text) ← year? text
  let text ← blanks? text
  let (hour, text) ← number? 2 2 text
  let text ← symbol? ':' (skipBlanks text)
  let (minute, text) ← number? 2 2 (skipBlanks text)
  let (second, text) ← seconds? text
  let text ← blanks? text
  let (zone, text) ← zone? text
  if onlyComments 0 text then
    some ⟨weekday, ⟨year, month + 1, day⟩, hour, minute, second, zone⟩
  else
    none

/-- The instant that parts of a date name, when they exist in the calendar. -/
def Parts.instant? (parts : Parts) : Option Instant :=
  let day := parts.date.dayNumber
  if parts.date.isValid ∧ day ≤ Calendar.lastDay ∧
      parts.weekday.all (· = weekdayIndex day) ∧
      parts.hour < 24 ∧ parts.minute < 60 ∧ parts.second ≤ 60 then
    let second : Int := parts.hour * 3600 + parts.minute * 60 + min parts.second 59
    let universal := second - parts.zone * 60
    Instant.ofParts? (day + universal / secondsPerDay) (universal % secondsPerDay).toNat
      (if parts.second = 60 then nanosecondsPerSecond else 0)
  else
    none

/-- The instant that a text names, white space around it not counted. -/
def read? (text : String) : Option Instant :=
  (parts? (trim text.toList)).bind Parts.instant?

end Triage.Time.HttpDate
