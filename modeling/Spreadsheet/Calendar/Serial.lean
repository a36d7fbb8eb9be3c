import Spreadsheet.Calendar.Instant
import Spreadsheet.Number.Scalar

/-! Serial dates: the count of days since 30 December 1899, whose fraction is the time of day. -/
namespace Spreadsheet.Instant

/-- The start of 30 December 1899. -/
def serialEpoch : Int := -2209161600000

/-- The serial of an instant, its fields read anew. -/
def toSerial? {α : Type} [Scalar α] (instant : Instant) : Option α :=
  instant.reread?.map fun read =>
    Scalar.ofInt (read.ms - serialEpoch) / Scalar.ofInt (α := α) msPerDay

/-- The instant of a serial, to the nearest millisecond. -/
def ofSerial? {α : Type} [Scalar α] (serial : α) : Option Instant := do
  let days := Scalar.floor serial
  let day ← Scalar.whole? days
  let ms ← Scalar.whole? (Scalar.nearest ((serial - days) * Scalar.ofInt msPerDay))
  ofMs? (serialEpoch + day * msPerDay + ms)

end Spreadsheet.Instant
