import Spreadsheet.Cell.Equality
import Spreadsheet.Text.Blank
import Spreadsheet.Number.Shortest

/-! How a run of cells goes on: always the same, by a constant step of numbers, dates or numbered texts, or all over
again. The first kind that fits is taken. -/
namespace Spreadsheet

/-- The kind of a run and what its continuation needs; the template gives style and format. The length is that of
the run. -/
inductive FillPattern where
  | constant (cell : Option Cell)
  | linear (template : Cell) (start step : Number) (length : Nat)
  | date (template : Cell) (origin : Instant) (step : Number) (length : Nat)
  | textSuffix (template : Cell) (head : List Char) (width : Nat) (start step : Number) (length : Nat)
  | cycle (cells : List (Option Cell))

namespace FillPattern

/-- The step from the first value to the second, if it is not zero and no later step differs from it by more than a
tolerance. A difference that is not-a-number is not more than any tolerance. -/
def constantStep? (tolerance : Number) : List Number → Option Number
  | first :: second :: rest =>
    let step := second - first
    let differs (pair : Number × Number) : Bool := decide (tolerance < (pair.2 - pair.1 - step).abs)
    if step.same 0 || ((second :: rest).zip rest).any differs then none else some step
  | _ => none

/-- Steps of numbers may differ by the error of decimal fractions. -/
def stepTolerance : Number := .ofRatio false 1 10000000000

def numberOf? : CellValue → Option Number
  | .number value => some value
  | _ => none

def dateOf? : CellValue → Option (Option Instant)
  | .date instant => some instant
  | _ => none

/-- The text before the final run of digits, on one line, and the digits. -/
def splitSuffix? (text : List Char) : Option (List Char × List Char) :=
  let digits := (text.reverse.takeWhile Char.isDigit).reverse
  let head := text.take (text.length - digits.length)
  if digits.isEmpty || head.any Text.isLineBreak then none else some (head, digits)

/-- A text that ends in a number whose neighbours are numbers too. -/
def suffixOf? : CellValue → Option (List Char × List Char)
  | .text content => (splitSuffix? content.toList).filter fun (_, digits) => Text.digitsValue digits < Number.safeBound
  | _ => none

/-- What all values of a run have, if they have it. -/
def valuesOf? {α : Type} (f : CellValue → Option α) (cells : List (Option Cell)) : Option (List α) :=
  cells.mapM fun cell => cell.bind fun cell => cell.value.toOption.bind f

def detectLinear? (template : Cell) (cells : List (Option Cell)) : Option FillPattern := do
  let values ← valuesOf? numberOf? cells
  let step ← constantStep? stepTolerance values
  let start ← values.head?
  return .linear template start step values.length

/-- The time that the fields of a date stand for. -/
def dateTime (instant : Option Instant) : Number := ((instant.bind Instant.reread?).map Instant.toNumber).getD .nan

/-- Dates have to be whole days apart. -/
def detectDate? (template : Cell) (cells : List (Option Cell)) : Option FillPattern := do
  let dates ← valuesOf? dateOf? cells
  let step ← constantStep? 0 (dates.map dateTime)
  if !(step % .ofNat msPerDay).same 0 then none
  let origin ← dates.head?
  return .date template (← origin) (step / .ofNat msPerDay) dates.length

/-- Texts have to agree up to their numbers. The width is that of the first number. -/
def detectSuffix? (template : Cell) (cells : List (Option Cell)) : Option FillPattern := do
  let suffixes ← valuesOf? suffixOf? cells
  let (head, digits) ← suffixes.head?
  if suffixes.any (·.1 != head) then none
  let numbers := suffixes.map fun (_, digits) => Number.ofNat (Text.digitsValue digits)
  let step ← constantStep? 0 numbers
  return .textSuffix template head digits.length (← numbers.head?) step suffixes.length

/-- The pattern of a run. -/
def detect (equality : CellEquality) : List (Option Cell) → FillPattern
  | [] => constant none
  | first :: rest =>
    if rest.all (equality.same · first) then constant first
    else match first with
      | none => cycle (first :: rest)
      | some template =>
        ((detectLinear? template (first :: rest)).or
          ((detectDate? template (first :: rest)).or
            (detectSuffix? template (first :: rest)))).getD (cycle (first :: rest))

def kind : FillPattern → String
  | constant _ => "constant"
  | linear .. => "linear"
  | date .. => "date"
  | textSuffix .. => "textSuffix"
  | cycle _ => "cycle"

/-- A value with the style and format of the template; rich text is not carried on. -/
def templated (template : Cell) (value : CellValue) : Cell :=
  Cell.tidy { template with value := .of value, richText := .absent }

/-- The cell a count of places after the run; the cell right after it has the count 0. -/
def generate (pattern : FillPattern) (index : Number) : Option Cell :=
  match pattern with
  | constant cell => cell
  | linear template start step length => some (templated template (.number (start + step * (.ofNat length + index))))
  | date template origin step length =>
    let day := Number.ofNat origin.date.day + step * (.ofNat length + index)
    some (templated template (.date (day.truncate?.bind origin.withDay?)))
  | textSuffix template head width start step length =>
    let number := (start + step * (.ofNat length + index)).abs
    some (templated template (.text (String.ofList (head ++ Text.padLeft width '0' number.text))))
  | cycle cells =>
    match (index % .ofNat cells.length).toInt? with
    | some place => if 0 ≤ place then (cells[place.toNat]?).join else none
    | none => none

end FillPattern
end Spreadsheet
