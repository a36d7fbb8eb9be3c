import Spreadsheet.Format.DateToken
import Spreadsheet.Locale.Basic
import Spreadsheet.Calendar.Instant
import Spreadsheet.Number.Shortest

/-! Dates, times of day and elapsed time as the tokens of a code show them. -/
namespace Spreadsheet.Format
attribute [local instance (high)] instPowNat

/-- A number in at least two characters, or plainly. -/
def padNumber (padded : Bool) (value : Number) : List Char :=
  Text.padLeft (if padded then 2 else 0) '0' value.text

/-- The total of the largest unit, and the smaller units as they wrap. -/
structure Elapsed where
  hours : Number
  minutes : Number
  seconds : Number

namespace Elapsed

/-- Splits milliseconds by the largest unit that the tokens show. Seconds drop their fraction. -/
def ofMs (tokens : List DateToken) (ms : Number) : Elapsed :=
  let withHours := tokens.any DateToken.isHour
  let withMinutes := tokens.any DateToken.isMinute
  let minutes := (ms / .ofNat msPerMinute).floor
  let seconds := (ms / .ofNat msPerSecond).floor
  { hours := (ms / .ofNat msPerHour).floor
    minutes := if withHours then minutes % 60 else minutes
    seconds := if withHours || withMinutes then seconds % 60 else seconds }

/-- The decimals of a second, cut to a count of digits. -/
def decimals (digits : Nat) (ms : Number) (locale : Locale) : List Char :=
  locale.decimal.toList ++ Text.padLeft digits '0' (ms / .ofNat (10 ^ (3 - digits))).floor.text

def tokenText (elapsed : Elapsed) (ms : Number) (locale : Locale) : DateToken → List Char
  | .literal text => text
  | .hour padded _ | .elapsed .hours padded => padNumber padded elapsed.hours
  | .minute padded | .elapsed .minutes padded => padNumber padded elapsed.minutes
  | .second padded | .elapsed .seconds padded => padNumber padded elapsed.seconds
  | .fraction digits => decimals digits (ms % .ofNat msPerSecond) locale
  | .day _ => (ms / .ofNat msPerDay).floor.text
  | .year _ | .month _ | .dayHalf _ => []

end Elapsed

/-- Milliseconds as elapsed time. Parts of a date other than days are left out. -/
def elapsedText (tokens : List DateToken) (ms : Number) (locale : Locale) : List Char :=
  tokens.flatMap ((Elapsed.ofMs tokens ms).tokenText ms locale)

/-- A field of a date; a date that is no point in time shows not-a-number. -/
def fieldText (width : Nat) (field : Option Int) : List Char :=
  Text.padLeft width '0' ((field.map Text.signedNumeral).getD Number.nan.text)

/-- Padded fields have two digits. -/
def clockWidth (padded : Bool) : Nat := if padded then 2 else 0

/-- The name at an index, or nothing. -/
def nameAt (names : List String) (index : Option Nat) : List Char :=
  ((index.bind (names[·]?)).map String.toList).getD []

/-- The hour on a clock of twelve hours, which has no zero. -/
def twelveHour (hour : Nat) : Nat := if hour % 12 = 0 then 12 else hour % 12

/-- Morning or afternoon. -/
def dayHalfText (form : DayHalfForm) (morning : Bool) (locale : Locale) : List Char :=
  match form with
  | .upperWords => (if morning then locale.am else locale.pm).toList
  | .lowerWords => Text.lower (if morning then locale.am else locale.pm).toList
  | .upperLetter => [if morning then 'A' else 'P']
  | .lowerLetter => [if morning then 'a' else 'p']

/-- One token of a date. The first letter of a month cannot be had of a date that is no point in time. -/
def dateTokenText? (instant : Option Instant) (locale : Locale) : DateToken → Option (List Char)
  | .literal text => some text
  | .year fourDigits =>
    let year := instant.map (·.date.year)
    some (if fourDigits then fieldText 4 year else fieldText 2 (year.map (·.tmod 100)))
  | .month form =>
    let month := instant.map (·.date.month)
    match form with
    | .numeric => some (fieldText 0 (month.map Int.ofNat))
    | .padded => some (fieldText 2 (month.map Int.ofNat))
    | .short => some (nameAt locale.monthsShort (month.map (· - 1)))
    | .full => some (nameAt locale.monthsFull (month.map (· - 1)))
    | .initial => (month.bind (locale.monthsFull[· - 1]?)).map (·.toList.take 1)
  | .day form =>
    let day := instant.map (Int.ofNat ·.date.day)
    some (match form with
      | .numeric => fieldText 0 day
      | .padded => fieldText 2 day
      | .short => nameAt locale.daysShort (instant.map (·.weekday))
      | .full => nameAt locale.daysFull (instant.map (·.weekday)))
  | .hour padded onTwelve =>
    let hour := instant.map (·.hour)
    some (if onTwelve then fieldText (clockWidth padded) (some (twelveHour (hour.getD 0)))
      else fieldText (clockWidth padded) (hour.map Int.ofNat))
  | .minute padded => some (fieldText (clockWidth padded) (instant.map (Int.ofNat ·.minute)))
  | .second padded => some (fieldText (clockWidth padded) (instant.map (Int.ofNat ·.second)))
  | .fraction digits =>
    some (locale.decimal.toList ++
      fieldText digits (instant.map fun instant => Int.ofNat (instant.millisecond / 10 ^ (3 - digits))))
  | .dayHalf form => some (dayHalfText form ((instant.map (·.hour)).any (· < 12)) locale)
  | .elapsed .. => some []

/-- A point in time as the tokens of a code without elapsed time show it. -/
def dateText? (tokens : List DateToken) (instant : Option Instant) (locale : Locale) : Option (List Char) :=
  (tokens.mapM (dateTokenText? instant locale)).map List.flatten

end Spreadsheet.Format
