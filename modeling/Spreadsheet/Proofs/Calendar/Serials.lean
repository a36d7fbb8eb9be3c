import Spreadsheet.Calendar.Serial
import Spreadsheet.Proofs.Calendar.Fields
import Spreadsheet.Proofs.Number.Accuracy

/-! Serial dates against the points in time that they count. A serial is rounded once, its whole days are taken off,
and what is left is turned into milliseconds: three roundings, which together are off by less than half a millisecond
in the years that a date may have, so that the nearest millisecond is the one that was counted. -/
namespace Spreadsheet.Instant

variable {instant read : Instant}

/-- A point in time of the years 0 to 9999 is not far from the day that serials are counted from. -/
theorem abs_ms_sub_serialEpoch_le (early : 0 ≤ instant.date.year) (late : instant.date.year ≤ 9999) :
    |instant.ms - serialEpoch| ≤ 2 ^ (48 : Nat) := by
  obtain ⟨begun, before⟩ := Calendar.yearOf_spec (instant.dayNumber - Calendar.yearZero)
  change 0 ≤ Calendar.yearOf (instant.dayNumber - Calendar.yearZero) at early
  change Calendar.yearOf (instant.dayNumber - Calendar.yearZero) ≤ 9999 at late
  generalize Calendar.yearOf (instant.dayNumber - Calendar.yearZero) = year at *
  rw [abs_le]
  simp only [dayNumber, msPerDay, serialEpoch, Calendar.yearStart, Calendar.yearZero] at *
  omega

section counted
open Number

/-- The days in a small count of milliseconds. -/
private theorem exists_days {ms : Int} (near : |ms| ≤ 2 ^ (48 : Nat)) :
    ∃ serial : Rat, (ofInt ms / ofInt msPerDay).toRat? = some serial ∧ |serial| ≤ 2 ^ 23 ∧
      |serial * 86400000 - ms| ≤ 1 / 16 := by
  have range : |(ms : Rat)| ≤ 2 ^ 48 := by exact_mod_cast near
  have perDay : (ofInt msPerDay).toRat? = some (86400000 : Rat) := toRat?_of_toInt? (toInt?_ofInt (by decide))
  have count : (ofInt ms).toRat? = some (ms : Rat) := by
    rw [Int.abs_eq_natAbs] at near
    exact toRat?_of_toInt? (toInt?_ofInt (by omega))
  have most : |(ms : Rat) / 86400000| ≤ 2 ^ 22 := by
    rw [abs_div, div_le_iff₀ (by norm_num), abs_of_pos (show (0 : Rat) < 86400000 by norm_num)]
    linarith
  obtain ⟨serial, isSerial, error⟩ :=
    (approximates_div count perDay (by norm_num) (abs_lt_of_le (by linarith))).exists_near most
  have quotient : (ms : Rat) / 86400000 * 86400000 = ms := div_mul_cancel₀ _ (by norm_num)
  rw [abs_le] at error most
  refine ⟨serial, isSerial, ?_, ?_⟩ <;> rw [abs_le] <;> constructor <;> linarith

/-- The milliseconds that are left of a number of days when whole ones are taken off. -/
private theorem exists_left {x y : Number} {serial : Rat} {day : Int} (is : x.toRat? = some serial)
    (whole : y.toInt? = some day) (begun : day ≤ serial) (before : serial < day + 1) :
    ∃ left : Rat, ((x - y) * ofInt msPerDay).toRat? = some left ∧ |left| ≤ 2 ^ 28 ∧
      |left - (serial - day) * 86400000| ≤ 1 / 16 := by
  have perDay : (ofInt msPerDay).toRat? = some (86400000 : Rat) := toRat?_of_toInt? (toInt?_ofInt (by decide))
  have part : |serial - day| ≤ 1 := abs_le.mpr ⟨by linarith, by linarith⟩
  obtain ⟨fraction, isFraction, error⟩ :=
    (approximates_sub is (toRat?_of_toInt? whole) (abs_lt_of_le (by linarith))).exists_near part
  rw [abs_le] at error part
  have small : |fraction * 86400000| ≤ 2 ^ 27 := abs_le.mpr ⟨by linarith, by linarith⟩
  obtain ⟨left, isLeft, errorLeft⟩ :=
    (approximates_mul isFraction perDay (abs_lt_of_le (by linarith))).exists_near small
  rw [abs_le] at errorLeft small
  refine ⟨left, isLeft, ?_, ?_⟩ <;> rw [abs_le] <;> constructor <;> linarith

/-- A serial among the numbers of a sheet: whole days, and the milliseconds that are left. -/
theorem ofSerial?_eq (serial : Number) :
    ofSerial? serial = serial.floor.toInt?.bind fun day =>
      ((serial - serial.floor) * ofInt msPerDay).round.toInt?.bind fun ms => ofMs? (serialEpoch + day * msPerDay + ms) :=
  rfl

/-- The whole days of a count of milliseconds and the milliseconds that are left make up the count, however the
division, the difference and the product are rounded. -/
theorem ofSerial?_div {ms : Int} (near : |ms| ≤ 2 ^ (48 : Nat)) :
    ofSerial? (ofInt ms / ofInt msPerDay) = ofMs? (serialEpoch + ms) := by
  obtain ⟨serial, isSerial, small, error⟩ := exists_days near
  have days := toInt?_floor isSerial (by linarith)
  obtain ⟨left, isLeft, smallLeft, errorLeft⟩ :=
    exists_left isSerial days (Int.floor_le serial) (Int.lt_floor_add_one serial)
  have rounded := toInt?_round isLeft (by linarith)
  generalize ⌊serial⌋ = day at days errorLeft
  have nearest : ⌊left + 1 / 2⌋ = ms - day * msPerDay := by
    rw [abs_le] at error errorLeft
    rw [Int.floor_eq_iff]
    push_cast [msPerDay]
    constructor <;> linarith
  rw [ofSerial?_eq, days, Option.bind_some, rounded, Option.bind_some, nearest, add_assoc, add_sub_cancel]

end counted

/-- The serial of a point in time counts the milliseconds of what its fields stand for. -/
theorem ofSerial?_of_toSerial? {serial : Number} (counted : instant.toSerial? = some serial)
    (fields : instant.reread? = some read) (early : 0 ≤ read.date.year) (late : read.date.year ≤ 9999) :
    ofSerial? serial = some read := by
  have near := abs_ms_sub_serialEpoch_le early late
  rw [toSerial?, fields, Option.map_some, Option.some.injEq] at counted
  subst counted
  refine (ofSerial?_div near).trans ?_
  rw [add_sub_cancel, ofMs?, dif_pos read.bounded]

end Spreadsheet.Instant
