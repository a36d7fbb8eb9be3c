import Spreadsheet.Calendar.Instant

/-! Fields of days and clocks against the counts that they stand for: the fields of a day number give the day number
back, and those of a point in time the point in time, unless its year is taken for a short one. -/
namespace Spreadsheet

namespace Calendar

/-- A day of the year falls in the last month that starts no later, and no month has more than 31 days. -/
theorem monthStarts_spec (leap : Bool) {inYear : Nat} (inside : inYear < if leap then 366 else 365) :
    let starts := (monthStarts leap).takeWhile (· ≤ inYear)
    1 ≤ starts.length ∧ starts.length ≤ 12 ∧ (monthStarts leap).getD (starts.length - 1) 0 = starts.getLastD 0 ∧
      starts.getLastD 0 ≤ inYear ∧ inYear < starts.getLastD 0 + 31 := by
  revert inYear
  -- A table against all days of a year of either kind.
  cases leap <;> decide +kernel

variable (number : Int)

/-- What the fields of a day number come to. -/
private theorem ofDayNumber_spec :
    let date := Date.ofDayNumber number
    1 ≤ date.month ∧ date.month ≤ 12 ∧ date.day ≤ 31 ∧
      yearZero + yearStart date.year + (monthStarts (isLeap date.year)).getD (date.month - 1) 0 + (date.day - 1) =
        number := by
  obtain ⟨begun, before⟩ := yearOf_spec (number - yearZero)
  rw [yearStart_succ] at before
  simp only [Date.ofDayNumber]
  generalize yearOf (number - yearZero) = year at begun before ⊢
  have inside : (number - yearZero - yearStart year).toNat < if isLeap year then 366 else 365 := by
    split at before <;> rename_i leap <;> simp only [leap, Bool.false_eq_true, ↓reduceIte] <;> omega
  obtain ⟨first, last, start, low, high⟩ := monthStarts_spec (isLeap year) inside
  rw [start]
  refine ⟨first, last, ?_, ?_⟩ <;> omega

theorem month_le : (Date.ofDayNumber number).month ≤ 12 := (ofDayNumber_spec number).2.1

theorem day_le : (Date.ofDayNumber number).day ≤ 31 := (ofDayNumber_spec number).2.2.1

/-- The fields of a day number give it back. -/
theorem dayNumber_ofDayNumber :
    dayNumber (Date.ofDayNumber number).year (Date.ofDayNumber number).month (Date.ofDayNumber number).day =
      number := by
  obtain ⟨first, last, _, sum⟩ := ofDayNumber_spec number
  generalize Date.ofDayNumber number = date at first last sum ⊢
  have sameYear : ((date.month : Int) - 1) / 12 = 0 := by omega
  have place : (((date.month : Int) - 1) % 12).toNat = date.month - 1 := by omega
  simp only [dayNumber, sameYear, Int.add_zero, place]
  exact sum

end Calendar

namespace Instant
variable (instant : Instant)

/-- The start of the day. -/
def midnight : Instant where
  ms := instant.dayNumber * msPerDay
  bounded := by
    have bounded := instant.bounded
    simp only [dayNumber, msPerDay]
    omega

theorem hour_lt : instant.hour < 24 := by
  have short := instant.timeOfDay_lt
  simp only [hour, msPerHour, msPerDay] at *
  omega

theorem minute_lt : instant.minute < 60 := Nat.mod_lt _ (by decide)

theorem second_lt : instant.second < 60 := Nat.mod_lt _ (by decide)

/-- The day and the fields of the clock make up the whole. -/
theorem ms_eq : instant.ms = instant.dayNumber * msPerDay + instant.hour * msPerHour + instant.minute * msPerMinute +
    instant.second * msPerSecond + instant.millisecond := by
  simp only [dayNumber, hour, minute, second, millisecond, timeOfDay, msPerDay, msPerHour, msPerMinute, msPerSecond]
  omega

@[simp] theorem dayNumber_midnight : instant.midnight.dayNumber = instant.dayNumber := by
  simp only [midnight, dayNumber, msPerDay]
  omega

@[simp] theorem date_midnight : instant.midnight.date = instant.date := by
  simp only [date, dayNumber_midnight]

@[simp] theorem timeOfDay_midnight : instant.midnight.timeOfDay = 0 := by
  simp only [midnight, timeOfDay, msPerDay]
  omega

variable {instant}

/-- A year of at least three digits is not short for another. -/
theorem fullYear_of_le {year : Int} (long : 100 ≤ year) : fullYear year = year := by
  unfold fullYear
  rw [if_neg (by omega)]

/-- The fields of a point in time give it back. -/
theorem ofFields?_fields (long : 100 ≤ instant.date.year) :
    ofFields? instant.date.year instant.date.month instant.date.day instant.hour instant.minute instant.second
      instant.millisecond = some instant := by
  unfold ofFields?
  rw [fullYear_of_le long, date, Calendar.dayNumber_ofDayNumber, ← ms_eq, ofMs?, dif_pos instant.bounded]

theorem reread?_eq (long : 100 ≤ instant.date.year) : instant.reread? = some instant := ofFields?_fields long

end Instant
end Spreadsheet
