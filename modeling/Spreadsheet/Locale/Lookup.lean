import Spreadsheet.Locale.Table
import Spreadsheet.Number.Reading
import Spreadsheet.Text.LetterCase

/-! Locales found by code or tag. What is not found stands for United States English. -/
namespace Spreadsheet.Locale

/-- One to eight hexadecimal digits, `0x` before them or not, as four upper-case digits; of more than four the
last four count. -/
def normalizeCode? (code : List Char) : Option (List Char) :=
  let trimmed := Text.trim code
  let hex := if Text.startsIgnoringCase ['0', 'x'] trimmed then trimmed.drop 2 else trimmed
  if hex.length ≤ 8 then
    (Number.ofBaseDigits? 16 hex).map fun value =>
      Text.padLeft 4 '0' ((Nat.toDigits 16 (value % 65536)).map Char.toUpper)
  else none

/-- The known locale with a code. -/
def ofCode? (code : List Char) : Option Locale :=
  (normalizeCode? code).bind fun digits => table.find? (·.code == String.ofList digits)

def ofCode (code : List Char) : Locale := (ofCode? code).getD enUs

/-- The locale with a tag in any case, or else with a code. -/
def resolve (name : List Char) : Locale :=
  (table.find? fun locale => Text.lower locale.tag.toList == Text.lower name).getD (ofCode name)

end Spreadsheet.Locale
