import Spreadsheet.Calendar.Instant
import Spreadsheet.Number.Shortest

/-! The values a cell can hold, their equality, their hash and the plain text that shows them. -/
namespace Spreadsheet

/-- A duration is a signed count of milliseconds; a date that is no point in time is none. The text of a formula
has its equals sign. -/
inductive CellValue where
  | text (content : String)
  | number (value : Number)
  | boolean (value : Bool)
  | formula (content : String)
  | error (content : String)
  | date (instant : Option Instant)
  | duration (ms : Number)
deriving DecidableEq

namespace CellValue

/-- A duration from its parts. -/
def durationOf (hours minutes seconds milliseconds : Number) : CellValue :=
  .duration (hours * .ofNat msPerHour + minutes * .ofNat msPerMinute + seconds * .ofNat msPerSecond + milliseconds)

/-- Not-a-number equals itself here, and the zeros are equal; dates that are no point in time differ. -/
def same : CellValue → CellValue → Bool
  | text a, text b | formula a, formula b | error a, error b => a == b
  | boolean a, boolean b => a == b
  | number a, number b | duration a, duration b => decide (a = b) || a.same b
  | date (some a), date (some b) => decide (a = b)
  | _, _ => false

/-- The time of a date in milliseconds. -/
def timeText : Option Instant → List Char
  | some instant => Text.signedNumeral instant.ms
  | none => Number.nan.text

/-- A text by which values can be told apart: the kind and the content. -/
def hash : CellValue → String
  | text content => "text:" ++ content
  | number value => "number:" ++ toString value
  | boolean value => if value then "boolean:true" else "boolean:false"
  | formula content => "formula:" ++ content
  | error content => "error:" ++ content
  | date instant => "date:" ++ String.ofList (timeText instant)
  | duration ms => "duration:" ++ toString ms

/-- A number in at least two characters. -/
def twoPlaces (value : Number) : List Char := Text.padLeft 2 '0' value.text

/-- Hours, minutes and seconds of a duration; what is less than a second is dropped. -/
def clock (ms : Number) : List Char :=
  let magnitude := ms.abs
  let hours := (magnitude / .ofNat msPerHour).floor
  let minutes := (magnitude / .ofNat msPerMinute).floor % 60
  let seconds := (magnitude / .ofNat msPerSecond).floor % 60
  (if ms < 0 then ['-'] else []) ++ hours.text ++ ':' :: twoPlaces minutes ++ ':' :: twoPlaces seconds

/-- Year, month and day of a date. -/
def dateText : Option Instant → List Char
  | some instant =>
    let date := instant.date
    Text.signedNumeral date.year ++ '-' :: Text.twoDigits date.month ++ '-' :: Text.twoDigits date.day
  | none => "NaN-NaN-NaN".toList

/-- The text of a value that has no format. -/
def display : CellValue → String
  | text content | formula content | error content => content
  | number value => toString value
  | boolean value => if value then "TRUE" else "FALSE"
  | date instant => String.ofList (dateText instant)
  | duration ms => String.ofList (clock ms)

def isNumber : CellValue → Bool
  | number _ => true
  | _ => false

def isText : CellValue → Bool
  | text _ => true
  | _ => false

def isDate : CellValue → Bool
  | date _ => true
  | _ => false

end CellValue
end Spreadsheet
