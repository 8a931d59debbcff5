import Triage.Proofs.Text.Scan
import Triage.Proofs.Time.Date
import Triage.Proofs.Time.Shift
import Triage.Time.HttpDate.Reader

/-!
# Dates of HTTP headers, written and read

A written date is read part by part, and its parts name the second that was written:
the day of the week fits because dates and their numbers agree, and second 60 leads
back into the leap second.  Years that need a sign are written but not read.
-/

namespace Triage.Time

open Triage.Text

theorem weekdayIndex_lt (day : Int) : weekdayIndex day < 7 := by
  unfold weekdayIndex
  omega

namespace HttpDate

variable {instant : Instant} {rest : List Char}

/-! ## Names -/

theorem nameLetters_of_lt {names : List String} {index : Nat} (inside : index < names.length) :
    nameLetters names index = names[index].toList := by
  rw [nameLetters, List.getElem?_eq_getElem inside, Option.getD_some]

/-- A name of a list of solid names starts solid. -/
theorem startsSolid_nameLetters {names : List String} {index : Nat}
    (inside : index < names.length)
    (solid : ∀ name ∈ names, name.toList.head?.map isBlank = some false) :
    StartsSolid (nameLetters names index ++ rest) := by
  rw [nameLetters_of_lt inside]
  exact startsSolid_append (solid _ (List.getElem_mem inside))

theorem weekdayNames_inside (day : Int) : weekdayIndex day < weekdayNames.length :=
  weekdayIndex_lt day

theorem monthNames_inside {month : Nat} (first : 1 ≤ month) (last : month ≤ 12) :
    month - 1 < monthNames.length := by
  change month - 1 < 12
  omega

/-- The name of a weekday and a comma are read as the weekday. -/
theorem weekday?_nameLetters (day : Int) :
    weekday? (nameLetters weekdayNames (weekdayIndex day) ++ ',' :: rest) =
      some (some (weekdayIndex day), rest) := by
  have inside := weekdayNames_inside day
  have short : ∀ name ∈ weekdayNames, name.toList.length = 3 := by decide
  have read : shortName? weekdayNames (weekdayNames[weekdayIndex day].toList ++ ',' :: rest) =
      some (weekdayIndex day, ',' :: rest) :=
    shortName?_append inside (short _ (List.getElem_mem inside)) (by decide)
  rw [nameLetters_of_lt inside, weekday?, read]
  rfl

/-- The name of a month is read as the month. -/
theorem shortName?_nameLetters_month {month : Nat} (first : 1 ≤ month) (last : month ≤ 12) :
    shortName? monthNames (nameLetters monthNames (month - 1) ++ rest) =
      some (month - 1, rest) := by
  have inside := monthNames_inside first last
  have short : ∀ name ∈ monthNames, name.toList.length = 3 := by decide
  rw [nameLetters_of_lt inside]
  exact shortName?_append inside (short _ (List.getElem_mem inside)) (by decide)

theorem startsSolid_nameLetters_month {month : Nat} (first : 1 ≤ month) (last : month ≤ 12) :
    StartsSolid (nameLetters monthNames (month - 1) ++ rest) :=
  startsSolid_nameLetters (monthNames_inside first last) (by decide)

/-! ## Years -/

/-- Four digits are read as the year. -/
theorem year?_yearLetters {year : Int} (first : 0 ≤ year) (last : year ≤ 9999)
    (ends : ∀ c ∈ rest.head?, c.isDigit = false) :
    year? (yearLetters year ++ rest) = some (year.toNat, rest) := by
  have small : year.toNat < 10000 := by omega
  have read : digits? 2 (fourDigits year.toNat ++ rest).length (fourDigits year.toNat ++ rest) =
      some (fourDigits year.toNat, rest) :=
    digits?_length_append (fun _ isIn => isDigit_of_mem_fourDigits small isIn) ends
      (Nat.le_of_ble_eq_true rfl)
  have fits : 0 ≤ year ∧ year ≤ 9999 := ⟨first, last⟩
  simp only [yearLetters, if_pos fits, year?, read, Option.map_some,
    numberOfDigits_fourDigits small]
  rfl

theorem startsSolid_yearLetters {year : Int} : StartsSolid (yearLetters year ++ rest) := by
  unfold yearLetters
  split
  · exact startsSolid_fourDigits (by omega)
  · split <;> exact startsSolid_cons.mpr rfl

/-- A sign is no year. -/
theorem year?_yearLetters_eq_none {year : Int} (outside : ¬ (0 ≤ year ∧ year ≤ 9999)) :
    year? (yearLetters year ++ rest) = none := by
  unfold yearLetters
  rw [if_neg outside]
  split <;> rfl

/-! ## Time of day -/

theorem symbol?_colon : symbol? ':' (skipBlanks (':' :: rest)) = some rest := rfl

/-- A colon promises the seconds. -/
theorem seconds?_twoDigits {second : Nat} (small : second < 100) :
    seconds? (':' :: (twoDigits second ++ rest)) = some (second, rest) := by
  rw [seconds?, symbol?_colon]
  exact number?_twoDigits small (Nat.le_refl 2)

theorem blanks?_universal : blanks? [' ', 'G', 'M', 'T'] = some ['G', 'M', 'T'] := rfl

theorem zone?_universal : zone? ['G', 'M', 'T'] = some (0, []) := by decide

/-! ## Parts -/

/-- The written letters from the front to the back. -/
theorem letters_eq (instant : Instant) :
    letters instant =
      nameLetters weekdayNames (weekdayIndex instant.day) ++ ',' :: ' ' ::
        (twoDigits instant.date.day ++ ' ' ::
          (nameLetters monthNames (instant.date.month - 1) ++ ' ' ::
            (yearLetters instant.date.year ++ ' ' ::
              (twoDigits (instant.second / 3600) ++ ':' ::
                (twoDigits (instant.second / 60 % 60) ++ ':' ::
                  (twoDigits (secondOfMinute instant) ++ [' ', 'G', 'M', 'T'])))))) := by
  have comma : ", ".toList = [',', ' '] := rfl
  have zone : " GMT".toList = [' ', 'G', 'M', 'T'] := rfl
  simp only [letters, comma, zone, List.append_assoc, List.cons_append, List.nil_append]

/-- The second that is written fits in two digits. -/
theorem secondOfMinute_le (instant : Instant) : secondOfMinute instant ≤ 60 := by
  unfold secondOfMinute
  split <;> omega

/-- The written parts. -/
def writtenParts (instant : Instant) : Parts where
  weekday := some (weekdayIndex instant.day)
  date := instant.date
  hour := instant.second / 3600
  minute := instant.second / 60 % 60
  second := secondOfMinute instant
  zone := 0

/-- The written parts are read back, unless the year has a sign. -/
theorem parts?_letters (instant : Instant) :
    parts? (letters instant) =
      if 0 ≤ instant.date.year ∧ instant.date.year ≤ 9999 then
        some (writtenParts instant)
      else
        none := by
  have bounds : (1 ≤ instant.date.month ∧ instant.date.month ≤ 12) ∧ instant.date.day ≤ 31 :=
    Date.ofDayNumber_bounds instant.day
  have second_lt : instant.second < 86400 := instant.second_lt
  have dayFits : instant.date.day < 100 := by omega
  have hourFits : instant.second / 3600 < 100 := by omega
  have minuteFits : instant.second / 60 % 60 < 100 := by omega
  have secondFits : secondOfMinute instant < 100 :=
    Nat.lt_of_le_of_lt (secondOfMinute_le instant) (by decide)
  have readMonth : ∀ rest, shortName? monthNames
      (nameLetters monthNames (instant.date.month - 1) ++ rest) =
        some (instant.date.month - 1, rest) :=
    fun rest => shortName?_nameLetters_month bounds.1.1 bounds.1.2
  have startsMonth : ∀ rest, StartsSolid
      (nameLetters monthNames (instant.date.month - 1) ++ rest) :=
    fun rest => startsSolid_nameLetters_month bounds.1.1 bounds.1.2
  rw [letters_eq]
  -- The date, up to the year.
  simp only [parts?, weekday?_nameLetters, Option.bind_eq_bind, Option.bind_some,
    skipBlanks_space (startsSolid_twoDigits dayFits),
    number?_twoDigits dayFits (show 1 ≤ 2 by decide), blanks?_space (startsMonth _), readMonth,
    blanks?_space startsSolid_yearLetters]
  split
  · rename_i inRange
    have readYear : ∀ rest, year? (yearLetters instant.date.year ++ ' ' :: rest) =
        some (instant.date.year.toNat, ' ' :: rest) :=
      fun rest => year?_yearLetters inRange.1 inRange.2 (by simp)
    have month_eq : instant.date.month - 1 + 1 = instant.date.month := by omega
    have year_eq : (instant.date.year.toNat : Int) = instant.date.year :=
      Int.toNat_of_nonneg inRange.1
    -- The time of day and the zone.
    simp only [readYear, Option.bind_some, blanks?_space (startsSolid_twoDigits hourFits),
      number?_twoDigits hourFits (show 2 ≤ 2 by decide), symbol?_colon,
      skipBlanks_of_startsSolid (startsSolid_twoDigits minuteFits),
      number?_twoDigits minuteFits (show 2 ≤ 2 by decide), seconds?_twoDigits secondFits,
      blanks?_universal, zone?_universal, month_eq, year_eq]
    rfl
  · rename_i outside
    rw [year?_yearLetters_eq_none outside, Option.bind_none]

/-- A written date has no white space at its ends. -/
theorem trim_letters (instant : Instant) : trim (letters instant) = letters instant := by
  apply trim_of_startsSolid
  · rw [letters_eq]
    exact startsSolid_nameLetters (weekdayNames_inside instant.day) (by decide)
  · have zone : " GMT".toList.reverse = ['T', 'M', 'G', ' '] := rfl
    rw [letters, List.reverse_append, zone]
    exact startsSolid_cons.mpr rfl

/-! ## Instants -/

/-- The written second is 60 exactly inside a leap second. -/
theorem secondOfMinute_eq_sixty_iff (instant : Instant) :
    secondOfMinute instant = 60 ↔ instant.IsLeap := by
  constructor
  · intro sixty
    unfold secondOfMinute at sixty
    split at sixty
    · assumption
    · omega
  · intro leap
    rw [secondOfMinute, if_pos leap, instant.leap_only leap]

/-- Hour, minute and second lead back to the second of the day, and second 60 to the
second before. -/
theorem second_eq (instant : Instant) :
    instant.second / 3600 * 3600 + instant.second / 60 % 60 * 60 +
      min (secondOfMinute instant) 59 = instant.second := by
  by_cases leap : instant.IsLeap
  · have last := instant.leap_only leap
    rw [secondOfMinute, if_pos leap]
    omega
  · rw [secondOfMinute, if_neg leap]
    omega

/-- The written parts name the second in which the instant lies. -/
theorem instant?_writtenParts (instant : Instant) :
    (writtenParts instant).instant? = some instant.startOfSecond := by
  have isDay : instant.date.dayNumber = instant.day := Date.dayNumber_ofDayNumber instant.day
  have second_lt : instant.second < 86400 := instant.second_lt
  have second_eq := second_eq instant
  have exists_in_calendar : (writtenParts instant).date.isValid ∧
      (writtenParts instant).date.dayNumber ≤ Calendar.lastDay ∧
      (writtenParts instant).weekday.all
        (· = weekdayIndex (writtenParts instant).date.dayNumber) ∧
      (writtenParts instant).hour < 24 ∧ (writtenParts instant).minute < 60 ∧
      (writtenParts instant).second ≤ 60 := by
    simp only [writtenParts, isDay]
    refine ⟨Date.isValid_ofDayNumber instant.day, instant.le_last, by simp, by omega, by omega,
      secondOfMinute_le instant⟩
  rw [Parts.instant?]
  simp only [if_pos exists_in_calendar]
  rw [Instant.ofParts?_eq_some_iff]
  simp only [writtenParts, isDay, secondOfMinute_eq_sixty_iff, secondsPerDay]
  refine ⟨?_, ?_, rfl⟩
  · change instant.day = _
    omega
  · change instant.second = _
    omega

/-- Reading a written date gives the second that was written, inside a leap second
when it lay inside one, exactly for the years that are written without a sign. -/
theorem read?_write_eq_startOfSecond (instant : Instant) :
    read? (write instant) =
      if 0 ≤ instant.date.year ∧ instant.date.year ≤ 9999 then
        some instant.startOfSecond
      else
        none := by
  have toList : (write instant).toList = letters instant := String.toList_ofList
  rw [read?, toList, trim_letters, parts?_letters]
  split
  · exact instant?_writtenParts instant
  · rfl

end HttpDate

end Triage.Time
