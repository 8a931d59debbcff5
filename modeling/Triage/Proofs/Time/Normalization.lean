import Triage.Proofs.Time.HttpDate

/-!
# Dates that were read and are written again

A date may be read from many texts: white space around it does not count, and its parts come in
several forms and zones.  What is read always is the start of a second, which a written date
names.  So writing a date that was read leads to the one text of it from which the same date is
read, except for years that are written with a sign.
-/

namespace Triage.Time

open Triage.Text

namespace Instant

variable {instant : Instant}

/-- The instant lies at the start of its second, be it a leap second or not. -/
def StartsSecond (instant : Instant) : Prop :=
  instant.nanosecond = 0 ∨ instant.nanosecond = nanosecondsPerSecond

theorem StartsSecond.startOfSecond (starts : instant.StartsSecond) :
    instant.startOfSecond = instant := by
  apply Instant.ext
  · rfl
  · rfl
  · change (if nanosecondsPerSecond ≤ instant.nanosecond then nanosecondsPerSecond else 0) =
      instant.nanosecond
    rcases starts with plain | leap
    · rw [plain]
      rfl
    · rw [leap, if_pos (Nat.le_refl _)]

/-- A leap second follows the last second of a minute, counted from the start of 1970. -/
theorem unixSeconds_emod_of_isLeap (leap : instant.IsLeap) : instant.unixSeconds % 60 = 59 := by
  have last := instant.leap_only leap
  simp only [unixSeconds, secondsPerDay]
  omega

end Instant

namespace HttpDate

variable {instant : Instant} {text : String}

/-- White space around a date does not count. -/
theorem read?_surrounded {front back : String} (frontBlank : ∀ c ∈ front.toList, isBlank c = true)
    (backBlank : ∀ c ∈ back.toList, isBlank c = true) :
    read? (front ++ text ++ back) = read? text := by
  rw [read?, String.toList_append, String.toList_append, trim_surrounded frontBlank backBlank,
    read?]

/-- Parts of a date name the start of a second, which is a leap second when it is second 60. -/
theorem nanosecond_of_instant? {parts : Parts} (named : parts.instant? = some instant) :
    instant.nanosecond = if parts.second = 60 then nanosecondsPerSecond else 0 := by
  rw [Parts.instant?] at named
  split at named
  · exact (Instant.ofParts?_eq_some_iff.mp named).2.2
  · contradiction

theorem startsSecond_of_read? (found : read? text = some instant) : instant.StartsSecond := by
  obtain ⟨parts, -, named⟩ := Option.bind_eq_some_iff.mp found
  have isNanosecond := nanosecond_of_instant? named
  split at isNanosecond
  · exact .inr isNanosecond
  · exact .inl isNanosecond

/-- The start of a second is read back from its written date, unless its year has a sign. -/
theorem read?_write_of_startsSecond (starts : instant.StartsSecond)
    (year_nonneg : 0 ≤ instant.date.year) (year_le : instant.date.year ≤ 9999) :
    read? (write instant) = some instant := by
  have toList : (write instant).toList = letters instant := String.toList_ofList
  rw [read?, toList, trim_letters, parts?_letters, if_pos ⟨year_nonneg, year_le⟩,
    Option.bind_some, instant?_writtenParts, starts.startOfSecond]

/-- A date is read from a text whatever white space is around it.  It is the start of a second,
which is the last one of a minute if it is a leap second, and when its year needs no sign it is
read again from the text in which it is written, so that this text is the normal form of every
text from which the date is read. -/
theorem read_dates_are_normalized_by_writing (text : String) :
    (∀ front back : String, (∀ c ∈ front.toList, isBlank c = true) →
      (∀ c ∈ back.toList, isBlank c = true) → read? (front ++ text ++ back) = read? text) ∧
    ∀ instant, read? text = some instant →
      (instant.nanosecond = 0 ∨
        instant.nanosecond = 1000000000 ∧ instant.unixSeconds % 60 = 59) ∧
      (0 ≤ instant.date.year → instant.date.year ≤ 9999 →
        read? (write instant) = some instant ∧
        (read? (write instant)).map write = some (write instant)) := by
  refine ⟨fun front back => read?_surrounded, ?_⟩
  intro instant found
  have starts := startsSecond_of_read? found
  constructor
  · rcases starts with plain | leap
    · exact .inl plain
    · have isLeap : instant.IsLeap := Nat.le_of_eq leap.symm
      exact .inr ⟨leap, Instant.unixSeconds_emod_of_isLeap isLeap⟩
  · intro year_nonneg year_le
    have again := read?_write_of_startsSecond starts year_nonneg year_le
    rw [again]
    exact ⟨rfl, rfl⟩

/-- A leap second at the end of a year, by the clocks of New York and with a remark. -/
def farewell : String := "fri, 31 DEC 99 19:59:60 est (happy new year \\))"

/-- The farewell is said in the next year by universal time, in which it is written again. -/
theorem read_dates_are_normalized_by_writing_farewell :
    ∃ instant, read? ("\t " ++ farewell ++ "\n") = some instant ∧
      instant.nanosecond = 1000000000 ∧ instant.unixSeconds % 60 = 59 ∧
      write instant = "Sat, 01 Jan 2000 00:59:60 GMT" ∧
      read? (write instant) = some instant := by
  have found : read? farewell = some ((Instant.ofParts? 10957 3599 1000000000).get rfl) := by
    decide +kernel
  obtain ⟨surrounded, dates⟩ := read_dates_are_normalized_by_writing farewell
  obtain ⟨plain | ⟨isNanosecond, isLast⟩, normalized⟩ := dates _ found
  · exact absurd plain (by decide)
  · refine ⟨_, ?_, isNanosecond, isLast, by decide +kernel, (normalized ?_ ?_).1⟩
    · have frontBlank : "\t ".toList.all isBlank = true := by decide
      have backBlank : "\n".toList.all isBlank = true := by decide
      rw [surrounded "\t " "\n" (List.all_eq_true.mp frontBlank) (List.all_eq_true.mp backBlank),
        found]
    · decide +kernel
    · decide +kernel

end HttpDate

end Triage.Time
