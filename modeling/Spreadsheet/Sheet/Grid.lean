import Spreadsheet.Cell.Basic
import Spreadsheet.Coordinate.Range
import Std.Data.TreeMap
import Std.Data.TreeSet

/-! The contents of a sheet: a sparse layer for each aspect of its cells, the cells that have any, and the last row
and column among them. -/
namespace Spreadsheet

/-- One aspect of the cells that have it. -/
abbrev Layer (α : Type) := Std.TreeMap (Address Int) (Content α) Address.rowMajor

/-- Sets or clears the aspect of a cell. -/
def Layer.put {α : Type} (layer : Layer α) (address : Address Int) : Option (Content α) → Layer α
  | some content => layer.insert address content
  | none => layer.erase address

/-- Without cells the last row and column are -1. -/
structure Grid where
  values : Layer CellValue := ∅
  styles : Layer Payload := ∅
  formats : Layer CellFormat := ∅
  richTexts : Layer Payload := ∅
  populated : Std.TreeSet (Address Int) Address.rowMajor := ∅
  lastRow : Int := -1
  lastColumn : Int := -1

namespace Grid

/-- A cell has at least one aspect. -/
def isOccupied (grid : Grid) (address : Address Int) : Bool :=
  grid.values.contains address || grid.styles.contains address || grid.formats.contains address ||
    grid.richTexts.contains address

/-- Finds the last row and column anew. -/
def measure (grid : Grid) : Grid :=
  { grid with
    lastRow := grid.populated.foldl (fun last address => max last address.row) (-1)
    lastColumn := grid.populated.foldl (fun last address => max last address.column) (-1) }

/-- Brings the populated cells and the last row and column up to date after a change of one cell. Only a cell that
was the last of its row or column can move them back. -/
def sync (grid : Grid) (address : Address Int) : Grid :=
  if grid.isOccupied address then
    if grid.populated.contains address then grid
    else
      { grid with
        populated := grid.populated.insert address
        lastRow := max grid.lastRow address.row
        lastColumn := max grid.lastColumn address.column }
  else if grid.populated.contains address then
    let erased := { grid with populated := grid.populated.erase address }
    if address.row = grid.lastRow ∨ address.column = grid.lastColumn then erased.measure else erased
  else grid

def putValue (grid : Grid) (address : Address Int) (value : Option (Content CellValue)) : Grid :=
  { grid with values := grid.values.put address value }.sync address

/-- To put null is to clear, here and for rich text. -/
def putStyle (grid : Grid) (address : Address Int) (style : Option (Content Payload)) : Grid :=
  { grid with styles := grid.styles.put address (style.filter (!·.value.isNull)) }.sync address

def putFormat (grid : Grid) (address : Address Int) (format : Option (Content CellFormat)) : Grid :=
  { grid with formats := grid.formats.put address format }.sync address

def putRichText (grid : Grid) (address : Address Int) (richText : Option (Content Payload)) : Grid :=
  { grid with richTexts := grid.richTexts.put address (richText.filter (!·.value.isNull)) }.sync address

/-- Replaces all aspects of a cell. -/
def putCell (grid : Grid) (address : Address Int) (cell : Option Cell) : Grid :=
  let given := cell.getD {}
  (((grid.putValue address given.value.content?).putStyle address given.style.content?).putFormat address
    given.format.content?).putRichText address given.richText.content?

/-- A populated cell with its aspects. -/
def cell? (grid : Grid) (address : Address Int) : Option Cell :=
  if grid.populated.contains address then
    some (Cell.tidy ⟨.ofContent? grid.values[address]?, .ofContent? grid.styles[address]?,
      .ofContent? grid.formats[address]?, .ofContent? grid.richTexts[address]?⟩)
  else none

/-- The populated cells of a range in row-major order. The range is walked if it is small, else all populated cells
are looked at. -/
def populatedIn (grid : Grid) (range : Range Int) : List (Address Int) :=
  if range.size ≤ grid.populated.size then range.cells.filter grid.populated.contains
  else grid.populated.toList.filter range.contains

/-- The same for a range of any numbers, where walking starts from the first row and column given. -/
def populatedInGiven (grid : Grid) (range : Range Number) : List (Address Int) :=
  match range.toInt? with
  | some range => grid.populatedIn range
  | none =>
    if range.size ≤ .ofNat grid.populated.size then
      range.reached.filterMap fun address => address.toInt?.filter grid.populated.contains
    else grid.populated.toList.filter fun address => range.contains address.toNumber

/-- Removes all aspects of some cells. -/
def erase (grid : Grid) (addresses : List (Address Int)) : Grid :=
  addresses.foldl (fun grid address => grid.putCell address none) grid

/-- Removes values and rich texts of some cells; their styles and formats stay. -/
def eraseValues (grid : Grid) (addresses : List (Address Int)) : Grid :=
  addresses.foldl (fun grid address => (grid.putValue address none).putRichText address none) grid

def eraseStyles (grid : Grid) (addresses : List (Address Int)) : Grid :=
  addresses.foldl (fun grid address => grid.putStyle address none) grid

def eraseFormats (grid : Grid) (addresses : List (Address Int)) : Grid :=
  addresses.foldl (fun grid address => grid.putFormat address none) grid

/-- Writes cells one after another. -/
def putCells (grid : Grid) (cells : List (Address Int × Option Cell)) : Grid :=
  cells.foldl (fun grid (address, cell) => grid.putCell address cell) grid

/-- One cell for the whole range. -/
def fill (grid : Grid) (range : Range Int) (cell : Option Cell) : Grid := grid.putCells (range.cells.map (·, cell))

/-- Copies all aspects of a range to where it starts at another address. All is read before any is written. -/
def copy (grid : Grid) (source : Range Int) (target : Address Int) : Grid :=
  grid.putCells (source.cells.map fun address =>
    (⟨address.row - source.top + target.row, address.column - source.left + target.column⟩, grid.cell? address))

/-- Only the first cell of a merged region keeps its value and rich text. -/
def eraseCovered (grid : Grid) (region : Range Int) : Grid :=
  grid.eraseValues ((grid.populatedIn region).filter (· ≠ region.topLeft))

/-- Cells with their contents. -/
def collect (grid : Grid) (addresses : List (Address Int)) : List (Address Int × Cell) :=
  addresses.filterMap fun address => (grid.cell? address).map (address, ·)

/-- All populated cells in row-major order. -/
def cells (grid : Grid) : List (Address Int × Cell) := grid.collect grid.populated.toList

end Grid
end Spreadsheet
