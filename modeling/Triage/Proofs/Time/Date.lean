import Mathlib.Algebra.Ring.Nat
import Triage.Proofs.Time.Calendar

/-!
# Dates and their numbers

Walking through the months of a year splits a day of the year into a month and a day of
that month.  The date that is found for a day is valid and has that day's number.
-/

namespace Triage.Time

namespace Calendar

/-- A year ends where the next one starts. -/
theorem yearStart_succ (year : Int) :
    yearStart (year + 1) = yearStart year + (monthLengths (isLeapYear year)).sum := by
  have leap : (isLeapYear year = true ∧ (monthLengths (isLeapYear year)).sum = 366 ∧
        year % 4 = 0 ∧ (year % 100 ≠ 0 ∨ year % 400 = 0)) ∨
      (isLeapYear year = false ∧ (monthLengths (isLeapYear year)).sum = 365 ∧
        ¬ (year % 4 = 0 ∧ (year % 100 ≠ 0 ∨ year % 400 = 0))) := by
    cases isLeap : isLeapYear year with
    | true => exact .inl ⟨rfl, rfl, by simpa [isLeapYear] using isLeap⟩
    | false =>
        refine .inr ⟨rfl, rfl, ?_⟩
        rintro ⟨fourth, century⟩
        simp [isLeapYear, fourth] at isLeap
        omega
  unfold yearStart
  omega

/-- The walk through the months stops in the month that holds the day. -/
theorem monthAndDay_eq {lengths : List Nat} {offset : Nat} (month : Nat)
    (inYear : offset < lengths.sum) :
    ∃ place length, lengths[place]? = some length ∧
      (lengths.take place).sum ≤ offset ∧ offset < (lengths.take place).sum + length ∧
      monthAndDay month lengths offset =
        (month + place, offset - (lengths.take place).sum + 1) := by
  induction lengths generalizing month offset with
  | nil => simp at inYear
  | cons length later ih =>
      by_cases here : offset < length
      · exact ⟨0, length, rfl, Nat.zero_le offset, by simpa using here, by simp [monthAndDay, here]⟩
      · rw [List.sum_cons] at inYear
        have inLater : offset - length < later.sum := by omega
        rcases ih (month + 1) inLater with ⟨place, held, isHeld, notBefore, before, isDate⟩
        refine ⟨place + 1, held, isHeld, ?_, ?_, ?_⟩
        · rw [List.take_succ_cons, List.sum_cons]
          omega
        · rw [List.take_succ_cons, List.sum_cons]
          omega
        · rw [monthAndDay, if_neg here, isDate, List.take_succ_cons, List.sum_cons]
          congr 1 <;> omega

theorem monthStart_one_add (leap : Bool) (place : Nat) :
    monthStart leap (1 + place) = ((monthLengths leap).take place).sum := by
  rw [monthStart, Nat.add_sub_cancel_left, List.sum_eq_foldl]

theorem monthLength_one_add {leap : Bool} {place length : Nat}
    (isHeld : (monthLengths leap)[place]? = some length) :
    monthLength leap (1 + place) = length := by
  rw [Nat.add_comm, monthLength, isHeld, Option.getD_some]

/-- There are twelve months of at most 31 days. -/
theorem monthLengths_bounds {leap : Bool} {place length : Nat}
    (isHeld : (monthLengths leap)[place]? = some length) : place < 12 ∧ length ≤ 31 := by
  rcases List.getElem?_eq_some_iff.mp isHeld with ⟨inside, isHeld⟩
  have short : ∀ leap, ∀ length ∈ monthLengths leap, length ≤ 31 := by decide
  refine ⟨inside, short leap length ?_⟩
  rw [← isHeld]
  exact List.getElem_mem inside

end Calendar

namespace Date

open Calendar

/-- The date of a day lies in the year of the day, as far behind its start as the day. -/
theorem ofDayNumber_eq (day : Int) :
    ∃ place length, ∃ offset : Nat, yearStart (yearOfDay day) + offset = day ∧
      (monthLengths (isLeapYear (yearOfDay day)))[place]? = some length ∧
      ((monthLengths (isLeapYear (yearOfDay day))).take place).sum ≤ offset ∧
      offset < ((monthLengths (isLeapYear (yearOfDay day))).take place).sum + length ∧
      ofDayNumber day = ⟨yearOfDay day, 1 + place,
        offset - ((monthLengths (isLeapYear (yearOfDay day))).take place).sum + 1⟩ := by
  have inYear := mem_year_yearOfDay day
  rw [yearStart_succ] at inYear
  have offset_lt : (day - yearStart (yearOfDay day)).toNat <
      (monthLengths (isLeapYear (yearOfDay day))).sum := by
    omega
  rcases monthAndDay_eq 1 offset_lt with ⟨place, length, isHeld, notBefore, before, isDate⟩
  refine ⟨place, length, (day - yearStart (yearOfDay day)).toNat, by omega, isHeld, notBefore,
    before, ?_⟩
  simp only [ofDayNumber, isDate]

theorem isValid_ofDayNumber (day : Int) : (ofDayNumber day).isValid = true := by
  rcases ofDayNumber_eq day with ⟨place, length, offset, -, isHeld, notBefore, before, isDate⟩
  simp only [isDate, isValid, monthLength_one_add isHeld, Bool.and_eq_true, decide_eq_true_iff]
  constructor <;> omega

theorem dayNumber_ofDayNumber (day : Int) : (ofDayNumber day).dayNumber = day := by
  rcases ofDayNumber_eq day with ⟨place, length, offset, isDay, isHeld, notBefore, before, isDate⟩
  rw [isDate, dayNumber, monthStart_one_add]
  dsimp only
  omega

/-- The month and the day of a date are counted from one and fit in two digits. -/
theorem ofDayNumber_bounds (day : Int) :
    (1 ≤ (ofDayNumber day).month ∧ (ofDayNumber day).month ≤ 12) ∧
      (ofDayNumber day).day ≤ 31 := by
  rcases ofDayNumber_eq day with ⟨place, length, offset, -, isHeld, notBefore, before, isDate⟩
  have bounds := monthLengths_bounds isHeld
  rw [isDate]
  dsimp only
  omega

end Date

end Triage.Time
