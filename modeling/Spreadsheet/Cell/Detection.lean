import Spreadsheet.Cell.Value
import Spreadsheet.Calendar.DateText
import Spreadsheet.Number.Reading

/-! The value that typed text stands for. The kinds are tried in a fixed order: blank, formula, boolean, number,
duration, date, text. -/
namespace Spreadsheet.CellValue

/-- What a reader of dates makes of a text: nothing, a date that is no point in time, a failure, or a date. -/
inductive DateReading where
  | absent
  | invalid
  | failed
  | valid (instant : Instant)

/-- Reads ISO dates and dates with the month first. -/
def readDate (text : List Char) : DateReading :=
  match DateText.read? text with
  | some instant => .valid instant
  | none => .absent

/-- The upper case of a letter, as far as the words for truth values have it: a long s is an `S` too. -/
def upperLetter (c : Char) : Char := if c = 'ſ' then 'S' else c.toUpper

/-- The truth value that a word names in any case. -/
def boolean? (text : List Char) : Option Bool :=
  let word := text.map upperLetter
  if word = "TRUE".toList then some true else if word = "FALSE".toList then some false else none

/-- A decimal numeral whose value is finite. -/
def number? (text : List Char) : Option Number := (Number.ofDecimal? text).filter Number.isFinite

/-- Two digits that count minutes or seconds, and what follows. -/
def sixtieths? : List Char → Option (Number × List Char)
  | tens :: ones :: rest =>
    if tens.isDigit && tens.toNat ≤ '5'.toNat && ones.isDigit then
      some (.ofNat (Text.digitsValue [tens, ones]), rest)
    else none
  | _ => none

/-- Hours, a colon and minutes, with seconds after another colon or not. -/
def duration? (text : List Char) : Option Number := do
  let (hours, rest) := Text.spanDigits text
  if hours.isEmpty then none
  let whole := Number.ofNat (Text.digitsValue hours) * .ofNat msPerHour
  let (minutes, rest) ← sixtieths? (← DateText.expect? ':' rest)
  match rest with
  | [] => some (whole + minutes * .ofNat msPerMinute)
  | _ =>
    let (seconds, rest) ← sixtieths? (← DateText.expect? ':' rest)
    if rest.isEmpty then some (whole + minutes * .ofNat msPerMinute + seconds * .ofNat msPerSecond) else none

/-- The value of typed text, white space around it left out; none if it is blank. -/
def detect (formulas : Bool) (dateReader : List Char → DateReading) (typed : List Char) : Option CellValue :=
  let trimmed := Text.trim typed
  if trimmed.isEmpty then none
  else if formulas && trimmed.head? == some '=' then some (.formula (String.ofList trimmed))
  else match boolean? trimmed with
    | some value => some (.boolean value)
    | none => match number? trimmed with
      | some value => some (.number value)
      | none => match duration? trimmed with
        | some ms => some (.duration ms)
        | none => match dateReader trimmed with
          | .valid instant => some (.date (some instant))
          | _ => some (.text (String.ofList trimmed))

end Spreadsheet.CellValue
