import Spreadsheet.Calendar.Instant
import Spreadsheet.Text.Digits

/-! Dates as they are typed: `yyyy-m-d` with an optional time after `T` or a space, and `m/d/yyyy`. -/
namespace Spreadsheet.DateText

/-- Between `least` and `most` digits at the front, as many as there are, and what follows. -/
def digits? (least most : Nat) (text : List Char) : Option (Int × List Char) :=
  let run := (text.take most).takeWhile Char.isDigit
  if run.length < least then none else some (Text.digitsValue run, text.drop run.length)

/-- A character that has to come next. -/
def expect? (c : Char) : List Char → Option (List Char)
  | first :: rest => if first = c then some rest else none
  | [] => none

/-- The midnight or clock time of a day that is in the calendar. A day that the calendar does not have counts on
into the next month and is found out by its fields. -/
def instant? (year month day hour minute second : Int) : Option Instant := do
  let instant ← Instant.ofFields? year month day hour minute second 0
  let date := instant.date
  if date.year ≠ year ∨ (date.month : Int) ≠ month ∨ (date.day : Int) ≠ day then none
  else if 23 < hour ∨ 59 < minute ∨ 59 < second then none
  else some instant

/-- `H:mm` or `H:mm:ss` up to the end of the text. -/
def clock? (text : List Char) : Option (Int × Int × Int) := do
  let (hour, rest) ← digits? 1 2 text
  let (minute, rest) ← digits? 2 2 (← expect? ':' rest)
  match rest with
  | [] => some (hour, minute, 0)
  | _ =>
    let (second, rest) ← digits? 2 2 (← expect? ':' rest)
    if rest.isEmpty then some (hour, minute, second) else none

def iso? (text : List Char) : Option Instant := do
  let (year, rest) ← digits? 4 4 text
  let (month, rest) ← digits? 1 2 (← expect? '-' rest)
  let (day, rest) ← digits? 1 2 (← expect? '-' rest)
  match rest with
  | [] => instant? year month day 0 0 0
  | mark :: rest =>
    if mark ≠ 'T' ∧ mark ≠ ' ' then none
    else
      let (hour, minute, second) ← clock? rest
      instant? year month day hour minute second

def monthFirst? (text : List Char) : Option Instant := do
  let (month, rest) ← digits? 1 2 text
  let (day, rest) ← digits? 1 2 (← expect? '/' rest)
  let (year, rest) ← digits? 4 4 (← expect? '/' rest)
  if rest.isEmpty then instant? year month day 0 0 0 else none

/-- The instant of a typed date. -/
def read? (text : List Char) : Option Instant := (iso? text).or (monthFirst? text)

end Spreadsheet.DateText
