import Spreadsheet.Proofs.Calendar.Fields

/-! The days that the calendar has. A year begins where the year before it ends, its months follow one another, and so a
day number is the number of one day and of no other. -/
namespace Spreadsheet.Calendar

/-- The lengths of the months of a year. -/
def monthLengths (leap : Bool) : List Nat := [31, if leap then 29 else 28, 31, 30, 31, 30, 31, 31, 30, 31, 30, 31]

/-- A day that is in the calendar. -/
structure Date.IsReal (date : Date) : Prop where
  month : 1 ≤ date.month ∧ date.month ≤ 12
  day : 1 ≤ date.day ∧ date.day ≤ (monthLengths (isLeap date.year)).getD (date.month - 1) 0

theorem yearStart_mono {year later : Int} (order : year ≤ later) : yearStart year ≤ yearStart later := by
  simp only [yearStart]
  omega

/-- No two years have a day in common. -/
theorem yearOf_eq {days year : Int} (begun : yearStart year ≤ days) (before : days < yearStart (year + 1)) :
    yearOf days = year := by
  obtain ⟨started, ends⟩ := yearOf_spec days
  rcases Int.lt_trichotomy (yearOf days) year with less | same | greater
  · have after := yearStart_mono (Int.add_one_le_iff.mpr less)
    omega
  · exact same
  · have after := yearStart_mono (Int.add_one_le_iff.mpr greater)
    omega

/-- A day of the year is no later in its month than the month is long. -/
private theorem day_le_monthLengths (leap : Bool) {inYear : Nat} (inside : inYear < if leap then 366 else 365) :
    let starts := (monthStarts leap).takeWhile (· ≤ inYear)
    inYear - starts.getLastD 0 + 1 ≤ (monthLengths leap).getD (starts.length - 1) 0 := by
  revert inYear
  cases leap <;> decide +kernel

/-- A day of a month is in the year, after the first of this month and before the first of the next one. -/
private theorem monthStarts_of_day (leap : Bool) {month day : Nat} (short : month < 12)
    (inside : day < (monthLengths leap).getD month 0) :
    let inYear := (monthStarts leap).getD month 0 + day
    let starts := (monthStarts leap).takeWhile (· ≤ inYear)
    inYear < (if leap then 366 else 365) ∧ starts.length = month + 1 ∧
      starts.getLastD 0 = (monthStarts leap).getD month 0 := by
  have most : ∀ leap, ∀ month < 12, (monthLengths leap).getD month 0 ≤ 31 := by decide
  have known : ∀ leap, ∀ month < 12, ∀ day < 31, day < (monthLengths leap).getD month 0 →
      let inYear := (monthStarts leap).getD month 0 + day
      let starts := (monthStarts leap).takeWhile (· ≤ inYear)
      inYear < (if leap then 366 else 365) ∧ starts.length = month + 1 ∧
        starts.getLastD 0 = (monthStarts leap).getD month 0 := by decide +kernel
  exact known leap month short day (Nat.lt_of_lt_of_le inside (most leap month short)) inside

/-- Every day number is that of a day in the calendar. -/
theorem isReal_ofDayNumber (number : Int) : (Date.ofDayNumber number).IsReal := by
  obtain ⟨begun, before⟩ := yearOf_spec (number - yearZero)
  rw [yearStart_succ] at before
  simp only [Date.ofDayNumber]
  generalize yearOf (number - yearZero) = year at begun before ⊢
  have inside : (number - yearZero - yearStart year).toNat < if isLeap year then 366 else 365 := by
    split at before <;> rename_i leap <;> simp only [leap, Bool.false_eq_true, ↓reduceIte] <;> omega
  obtain ⟨first, last, -⟩ := monthStarts_spec (isLeap year) inside
  exact ⟨⟨first, last⟩, Nat.le_add_left 1 _, day_le_monthLengths (isLeap year) inside⟩

/-- A day in the calendar is the day of its number. -/
theorem ofDayNumber_dayNumber {date : Date} (real : date.IsReal) :
    Date.ofDayNumber (dayNumber date.year date.month date.day) = date := by
  obtain ⟨year, month, day⟩ := date
  obtain ⟨⟨first, last⟩, least, most⟩ := real
  dsimp only at first last least most ⊢
  obtain ⟨inside, count, start⟩ := monthStarts_of_day (isLeap year) (show month - 1 < 12 by omega)
    (show day - 1 < (monthLengths (isLeap year)).getD (month - 1) 0 by omega)
  have sameYear : ((month : Int) - 1) / 12 = 0 := by omega
  have place : (((month : Int) - 1) % 12).toNat = month - 1 := by omega
  have number : dayNumber year month day - yearZero =
      yearStart year + ((monthStarts (isLeap year)).getD (month - 1) 0 + (day - 1) : Nat) := by
    simp only [dayNumber, sameYear, place, Int.add_zero]
    omega
  generalize (monthStarts (isLeap year)).getD (month - 1) 0 = before at inside count start number
  have within : yearOf (dayNumber year month day - yearZero) = year := by
    refine yearOf_eq (by omega) ?_
    rw [yearStart_succ]
    split at inside <;> rename_i leap <;> simp only [leap, Bool.false_eq_true, ↓reduceIte] <;> omega
  have days : (dayNumber year month day - yearZero - yearStart year).toNat = before + (day - 1) := by omega
  simp only [Date.ofDayNumber, within, days]
  rw [count, start, Nat.sub_add_cancel first]
  congr 1
  omega

end Spreadsheet.Calendar
