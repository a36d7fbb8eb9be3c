import Spreadsheet.Proofs.Calendar.Fields

/-! Days counted on from the fields of a point in time: a day of the month beyond the end of its month is a day of a later
month, so that the fields of a point in time with some days added to the day of the month are those of the point in time
these days later. Only a short year is read as another one. -/
namespace Spreadsheet

/-- Each day of the month counts one. -/
theorem Calendar.dayNumber_add (year month day days : Int) :
    dayNumber year month (day + days) = dayNumber year month day + days := by
  unfold dayNumber
  dsimp only
  omega

namespace Instant
variable {instant result : Instant} {days : Int}

/-- A year of at most two digits, which fields are not read with. -/
def HasShortYear (instant : Instant) : Prop := 0 ≤ instant.date.year ∧ instant.date.year ≤ 99

/-- Days that are added to the day of the month are added to the point in time. -/
theorem withDay?_add (long : ¬instant.HasShortYear) (later : result.ms = instant.ms + days * msPerDay) :
    instant.withDay? (instant.date.day + days) = some result := by
  have same : fullYear instant.date.year = instant.date.year := if_neg long
  have reached : (instant.dayNumber + days) * msPerDay + instant.hour * msPerHour + instant.minute * msPerMinute +
      instant.second * msPerSecond + instant.millisecond = result.ms := by
    rw [later, instant.ms_eq, Int.add_mul]
    omega
  unfold withDay? ofFields?
  rw [same, date, Calendar.dayNumber_add, Calendar.dayNumber_ofDayNumber, reached, ofMs?, dif_pos result.bounded]

/-- Fields with a year that is not short are those of the point in time itself. -/
theorem reread?_of_long (long : ¬instant.HasShortYear) : instant.reread? = some instant := by
  have same : instant.withDay? (instant.date.day + 0) = some instant := withDay?_add long (by simp)
  rwa [Int.add_zero] at same

/-- Whole days leave the time of the day as it is. -/
theorem timeOfDay_of_days (later : result.ms = instant.ms + days * msPerDay) : result.timeOfDay = instant.timeOfDay := by
  rw [timeOfDay, timeOfDay, later, Int.add_mul_emod_self_right]

end Instant
end Spreadsheet
