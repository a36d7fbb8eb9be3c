import Spreadsheet.Cell.Basic
import Spreadsheet.Cell.Detection
import Spreadsheet.Coordinate.A1

/-! First contents of a sheet, put together row by row. -/
namespace Spreadsheet

/-- What a row may hold. The kind of a text is found out; a gap leaves its place empty. -/
inductive RowInput where
  | gap
  | typed (text : String)
  | number (value : Number)
  | flag (value : Bool)
  | date (instant : Option Instant)
  | cell (cell : Cell)

namespace RowInput

def toCell : RowInput → Cell
  | gap => {}
  | typed text =>
    match CellValue.detect true CellValue.readDate text.toList with
    | some value => .ofValue value
    | none => {}
  | number value => .ofValue (.number value)
  | flag value => .ofValue (.boolean value)
  | date instant => .ofValue (.date instant)
  | cell content => content

end RowInput

/-- Cells so far, the latest first, and the number of the row to come. -/
structure SheetBuilder where
  placed : List (Address Number × Cell) := []
  nextRow : Number := 0

namespace SheetBuilder

/-- Places a cell unless it is empty. -/
def place (builder : SheetBuilder) (entry : RowInput × Nat) : Except SheetError SheetBuilder := do
  let cell := entry.1.toCell
  if cell.isEmpty then return builder
  let address : Address Number := ⟨builder.nextRow, .ofNat entry.2⟩
  let _ ← address.checked
  return { builder with placed := (address, cell) :: builder.placed }

/-- Adds a row; its first input is in the first column. -/
def row (builder : SheetBuilder) (inputs : List RowInput) : Except SheetError SheetBuilder := do
  let filled ← inputs.zipIdx.foldlM place builder
  return { filled with nextRow := filled.nextRow + 1 }

/-- Leaves rows empty. -/
def skip (builder : SheetBuilder) (count : Number) : SheetBuilder :=
  { builder with nextRow := builder.nextRow + count }

/-- The cells in the order in which they were placed. -/
def cells (builder : SheetBuilder) : List (Address Number × Cell) := builder.placed.reverse

/-- One step of putting contents together. -/
inductive Step where
  | row (inputs : List RowInput)
  | skip (count : Number)

def take (builder : SheetBuilder) : Step → Except SheetError SheetBuilder
  | .row inputs => builder.row inputs
  | .skip count => .ok (builder.skip count)

/-- The cells that steps place, from the first row on. -/
def build (steps : List Step) : Except SheetError (List (Address Number × Cell)) :=
  (steps.foldlM take {}).map cells

end SheetBuilder
end Spreadsheet
