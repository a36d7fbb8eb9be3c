import Spreadsheet.Fill.Direction
import Spreadsheet.Fill.Pattern
import Spreadsheet.Sheet.Merging

/-! Filling of cells from a source, by copying, by a generator, or by going on as the source begins. -/
namespace Spreadsheet

/-- What a fill makes of each line of a source: a generator is given the source over and over, and the addresses as
a walk from the origin reaches them; without one the line goes on by its pattern. -/
def Sheet.continued (sheet : Sheet) (direction : FillDirection) (origin : Address Number) (source target : Range Int)
    (generator : Option Generator) : List (Address Int × Except SheetError (Option Cell)) :=
  ((direction.runs source).zip (direction.runs target)).flatMap fun (line, places) =>
    let cells := line.map sheet.grid.cell?
    let make : Address Int → Nat → Except SheetError (Option Cell) :=
      match generator with
      | some generator => fun address index =>
        generator (address.walkedFrom origin) (cells[index % cells.length]?).join
      | none =>
        let pattern := FillPattern.detect sheet.equality cells
        fun _ index => .ok (pattern.generate (.ofNat index))
    places.zipIdx.map fun (address, index) => (address, make address index)

namespace Session

/-- Writes cells in a batch until one cannot be made. Each is written by itself; what it copies keeps its stamp. -/
def writeAll (publish : Publisher) (cells : List (Address Int × Except SheetError (Option Cell))) : Session Unit :=
  batch publish <| cells.forM fun (address, made) => do
    let cell ← Run.lift made
    modifySheet (·.write fun stamp grid => grid.putCell address (cell.map (·.stamped stamp)))
    notify publish (.single address) (.range (.single address))

/-- Copies value, style and format of a cell to a range, or asks a generator for each of its cells. -/
def fillRange (publish : Publisher) (source : Address Number) (target : Range Number) (generator : Option Generator) :
    Session Unit := do
  let cells ← check (·.writableRange target)
  let cell := (← sheet).source? source
  match generator, cell with
  | some generator, _ =>
    writeAll publish (cells.cells.map fun address => (address, generator (address.walkedFrom target.topLeft) cell))
  | none, some cell => writeAll publish (cells.cells.map fun address => (address, .ok (some cell.withoutRichText)))
  | none, none => pure ()

/-- Continues the source toward the destination. Regions inside the source are copied along; for them the target is
stretched to whole spans of the source. Answers the source and target together, or none if the destination is inside
the source. -/
def smartFill (publish : Publisher) (source destination : Range Number) (generator : Option Generator) :
    Session (Option (Range Number)) := do
  let sourceCells ← check (·.writableRange source)
  match FillDirection.toward? source destination with
  | none => return none
  | some (direction, strip) =>
    let stripCells ← Run.lift strip.checked
    let sheet ← sheet
    let farEnd :=
      if (sheet.merges.inside source).isEmpty then none else direction.farEnd? sheet.area sourceCells stripCells
    let target := (farEnd.map fun farEnd => direction.endingAt strip (.ofInt farEnd)).getD strip
    let targetCells ← check (·.writableRange target)
    writeAll publish (sheet.continued direction (direction.origin source) sourceCells targetCells generator)
    let _ ← replicateMerges publish source target direction.vertical
    return some (source.union target)

end Session
end Spreadsheet
