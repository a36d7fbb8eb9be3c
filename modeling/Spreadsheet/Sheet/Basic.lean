import Spreadsheet.Cell.Equality
import Spreadsheet.Merge.Registry
import Spreadsheet.Sheet.Grid

/-! A sheet: its dimensions, contents and merged regions, what may be read of it, and which addresses and ranges
may be written. -/
namespace Spreadsheet

/-- The greatest dimensions of a sheet. -/
def maxRows : Nat := 1048576

def maxColumns : Nat := 16384

/-- While batches are open, the pending range covers all that was written in them. The count of writings is the stamp
of what the next one brings in. -/
structure Sheet where
  rows : Nat
  columns : Nat
  equality : CellEquality := {}
  grid : Grid := {}
  writings : Nat := 0
  merges : MergeRegistry := {}
  openBatches : Nat := 0
  pending : Option (Range Int) := none
  isDisposed : Bool := false

namespace Sheet

/-- What a given address has, if it names a cell. -/
def read {α : Type} (address : Address Number) (f : Address Int → Option α) : Option α := address.toInt?.bind f

/-- What a given address has in a layer. -/
def contentIn {α : Type} (layer : Layer α) (address : Address Number) : Option α :=
  read address fun address => layer[address]?.map (·.value)

def value? (sheet : Sheet) (address : Address Number) : Option CellValue := contentIn sheet.grid.values address
def style? (sheet : Sheet) (address : Address Number) : Option Payload := contentIn sheet.grid.styles address
def format? (sheet : Sheet) (address : Address Number) : Option CellFormat := contentIn sheet.grid.formats address
def richText? (sheet : Sheet) (address : Address Number) : Option Payload := contentIn sheet.grid.richTexts address

/-- The cell at a given address as a fill takes it, with its stamps. -/
def source? (sheet : Sheet) (address : Address Number) : Option Cell := read address sheet.grid.cell?

def cell? (sheet : Sheet) (address : Address Number) : Option Cell := (sheet.source? address).map Cell.plain

/-- Populated cells of a range in row-major order. -/
def cellsIn (sheet : Sheet) (range : Range Number) : List (Address Int × Cell) :=
  (sheet.grid.collect (sheet.grid.populatedInGiven range)).map fun (address, cell) => (address, cell.plain)

/-- All populated cells in row-major order. -/
def cells (sheet : Sheet) : List (Address Int × Cell) :=
  sheet.grid.cells.map fun (address, cell) => (address, cell.plain)

def regionAt? (sheet : Sheet) (address : Address Number) : Option MergeRegion := sheet.merges.at? address
def regions (sheet : Sheet) : List MergeRegion := sheet.merges.regions

/-- All cells there may be. -/
def area (sheet : Sheet) : Range Int := ⟨0, 0, sheet.rows - 1, sheet.columns - 1⟩

/-- A range does not leave the sheet on any side. -/
def holds (sheet : Sheet) (range : Range Number) : Bool :=
  match range.toInt? with
  | some range => sheet.area.containsRange range
  | none =>
    decide (0 ≤ range.top) && decide (0 ≤ range.left) && decide (range.bottom < .ofNat sheet.rows) &&
      decide (range.right < .ofNat sheet.columns)

/-- The cell at a given address, which has to be inside the sheet. -/
def inside (sheet : Sheet) (address : Address Number) : Except SheetError (Address Int) := do
  let cell ← address.checked
  if sheet.area.contains cell then return cell
  throw (.outsideSheet address sheet.rows sheet.columns)

/-- After the sheet is disposed of, nothing may be written. -/
def requireLive (sheet : Sheet) : Except SheetError Unit :=
  if sheet.isDisposed then .error .disposed else .ok ()

def writable (sheet : Sheet) (address : Address Number) : Except SheetError (Address Int) := do
  sheet.requireLive
  sheet.inside address

def writableRange (sheet : Sheet) (range : Range Number) : Except SheetError (Range Int) := do
  sheet.requireLive
  let cells ← range.checked
  let _ ← sheet.inside range.bottomRight
  return cells

/-- Changes the contents by one writing, which is given its stamp. -/
def write (sheet : Sheet) (change : Nat → Grid → Grid) : Sheet :=
  { sheet with grid := change sheet.writings sheet.grid, writings := sheet.writings + 1 }

/-- A sheet with its first contents, each cell written in turn. -/
def create (rows columns : Nat) (equality : CellEquality) (cells : List (Address Number × Cell)) :
    Except SheetError Sheet :=
  cells.foldlM
    (fun sheet (address, cell) => do
      let address ← sheet.inside address
      return sheet.write fun stamp grid => grid.putCell address (some (cell.stamped stamp)))
    { rows, columns, equality }

end Sheet
end Spreadsheet
