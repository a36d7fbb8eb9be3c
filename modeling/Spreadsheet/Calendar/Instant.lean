import Spreadsheet.Calendar.Date
import Spreadsheet.Number.Basic

/-! Points in time, counted in milliseconds from the start of 1970, and the fields of their day and clock. -/
namespace Spreadsheet

def msPerSecond : Nat := 1000
def msPerMinute : Nat := 60000
def msPerHour : Nat := 3600000
def msPerDay : Nat := 86400000

/-- A point in time. A hundred million days on either side of 1970 can be told. -/
structure Instant where
  ms : Int
  bounded : ms.natAbs ≤ 8640000000000000
deriving DecidableEq

namespace Instant

def ofMs? (ms : Int) : Option Instant :=
  if bounded : ms.natAbs ≤ 8640000000000000 then some ⟨ms, bounded⟩ else none

/-- A fraction of a millisecond is dropped. -/
def ofNumber? (ms : Number) : Option Instant := ms.truncate?.bind ofMs?

def toNumber (instant : Instant) : Number := .ofInt instant.ms

/-- Days from 1 January 1970 to the day of the instant. -/
def dayNumber (instant : Instant) : Int := instant.ms / msPerDay

/-- Milliseconds since the start of the day. -/
def timeOfDay (instant : Instant) : Nat := (instant.ms % msPerDay).toNat

def date (instant : Instant) : Calendar.Date := .ofDayNumber instant.dayNumber
def weekday (instant : Instant) : Nat := Calendar.weekday instant.dayNumber
def hour (instant : Instant) : Nat := instant.timeOfDay / msPerHour
def minute (instant : Instant) : Nat := instant.timeOfDay / msPerMinute % 60
def second (instant : Instant) : Nat := instant.timeOfDay / msPerSecond % 60
def millisecond (instant : Instant) : Nat := instant.timeOfDay % msPerSecond

theorem timeOfDay_lt (instant : Instant) : instant.timeOfDay < msPerDay := by
  simp only [timeOfDay, msPerDay]; omega

/-- A year of at most two digits is one of the twentieth century. -/
def fullYear (year : Int) : Int := if 0 ≤ year ∧ year ≤ 99 then 1900 + year else year

/-- The instant with these fields. Each field may be any whole number and counts on into the next larger one;
a year from 0 to 99 is short for 1900 to 1999. -/
def ofFields? (year month day hour minute second millisecond : Int) : Option Instant :=
  ofMs? (Calendar.dayNumber (fullYear year) month day * msPerDay + hour * msPerHour + minute * msPerMinute +
    second * msPerSecond + millisecond)

/-- The instant with the fields of another but for the day of the month; its year is read as `fullYear` reads
it. -/
def withDay? (instant : Instant) (day : Int) : Option Instant :=
  ofFields? instant.date.year instant.date.month day instant.hour instant.minute instant.second
    instant.millisecond

/-- The instant that the fields of another stand for. -/
def reread? (instant : Instant) : Option Instant := instant.withDay? instant.date.day

end Instant
end Spreadsheet
