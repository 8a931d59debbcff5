import Triage.Time.Calendar

/-!
# Days and their years

The year that is found for a day holds it: the day lies between the start of this
year and the start of the next one.  Starts of years are ordered like the years, so
a range of years is a range of days.
-/

namespace Triage.Time.Calendar

/-- A later year starts on a later day. -/
theorem yearStart_mono {first second : Int} (le : first ≤ second) :
    yearStart first ≤ yearStart second := by
  unfold yearStart
  omega

/-- A day lies between the start of its year and the start of the next one. -/
theorem mem_year_yearOfDay (day : Int) :
    yearStart (yearOfDay day) ≤ day ∧ day < yearStart (yearOfDay day + 1) := by
  simp only [yearOfDay]
  generalize isEstimate : 400 * (day + 719528) / 146097 = estimate
  -- The mean year is `146097 / 400` days long, so the estimate is at most one year off.
  have notLate : yearStart (estimate - 1) ≤ day := by
    unfold yearStart
    omega
  have notEarly : day < yearStart (estimate + 1 + 1) := by
    unfold yearStart
    omega
  split
  · rename_i late
    refine ⟨notLate, ?_⟩
    rwa [Int.sub_add_cancel]
  · rename_i begun
    split
    · rename_i early
      exact ⟨early, notEarly⟩
    · rename_i notOver
      exact ⟨Int.not_lt.mp begun, Int.not_le.mp notOver⟩

/-- The days of a range of years. -/
theorem day_bounds_of_year_bounds {day first last : Int}
    (first_le : first ≤ yearOfDay day) (le_last : yearOfDay day ≤ last) :
    yearStart first ≤ day ∧ day < yearStart (last + 1) := by
  constructor
  · exact Int.le_trans (yearStart_mono first_le) (mem_year_yearOfDay day).1
  · apply Int.lt_of_lt_of_le (mem_year_yearOfDay day).2
    exact yearStart_mono (Int.add_le_add_right le_last 1)

end Triage.Time.Calendar
