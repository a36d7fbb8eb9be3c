/-! Days of the Gregorian calendar, extended to all years before and after its introduction. Days are counted
from 1 January 1970. -/
namespace Spreadsheet.Calendar

/-- A day as it is written; months and days of the month start at 1. -/
structure Date where
  year : Int
  month : Nat
  day : Nat
deriving DecidableEq

def isLeap (year : Int) : Bool := year % 4 == 0 && (year % 100 != 0 || year % 400 == 0)

/-- Days from 1 January of year 0 to 1 January of `year`. -/
def yearStart (year : Int) : Int := 365 * year + (year + 3) / 4 - (year + 99) / 100 + (year + 399) / 400

/-- The day number of 1 January of year 0. -/
def yearZero : Int := -719528

/-- Days of the year before the first of each month. -/
def monthStarts (leap : Bool) : List Nat :=
  if leap then [0, 31, 60, 91, 121, 152, 182, 213, 244, 274, 305, 335]
  else [0, 31, 59, 90, 120, 151, 181, 212, 243, 273, 304, 334]

/-- The day number of a day given by any whole numbers: a month outside 1 to 12 counts on into other years, and
a day outside its month into other months. -/
def dayNumber (year month day : Int) : Int :=
  let months := month - 1
  let year := year + months / 12
  yearZero + yearStart year + (monthStarts (isLeap year)).getD (months % 12).toNat 0 + (day - 1)

/-- The year of a day counted from 1 January of year 0. The mean length of a year gives it up to one. -/
def yearOf (days : Int) : Int :=
  let estimate := days * 400 / 146097
  if days < yearStart estimate then estimate - 1
  else if yearStart (estimate + 1) ≤ days then estimate + 1
  else estimate

/-- The day with a day number. -/
def Date.ofDayNumber (number : Int) : Date :=
  let days := number - yearZero
  let year := yearOf days
  let inYear := (days - yearStart year).toNat
  let starts := (monthStarts (isLeap year)).takeWhile (· ≤ inYear)
  ⟨year, starts.length, inYear - starts.getLastD 0 + 1⟩

/-- The day of the week, Sunday being 0. 1 January 1970 was a Thursday. -/
def weekday (number : Int) : Nat := ((number + 4) % 7).toNat

theorem yearStart_succ (year : Int) :
    yearStart (year + 1) = yearStart year + (if isLeap year then 366 else 365) := by
  simp only [yearStart, isLeap, Bool.and_eq_true, Bool.or_eq_true, beq_iff_eq, bne_iff_ne]
  split <;> omega

theorem yearOf_spec (days : Int) :
    yearStart (yearOf days) ≤ days ∧ days < yearStart (yearOf days + 1) := by
  unfold yearOf
  dsimp only
  generalize estimated : days * 400 / 146097 = estimate
  split
  · next before =>
    rw [show estimate - 1 + 1 = estimate by omega]
    refine ⟨?_, before⟩
    simp only [yearStart] at *
    omega
  · split
    · next reached =>
      refine ⟨reached, ?_⟩
      simp only [yearStart] at *
      omega
    · constructor <;> omega

end Spreadsheet.Calendar
