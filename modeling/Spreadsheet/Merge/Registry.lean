import Spreadsheet.Coordinate.A1
import Std.Data.TreeMap

/-! Merged regions of a sheet: rectangles of at least two cells that do not overlap. One index finds the region of
each covered cell, the other lists the regions in the order in which they were made. -/
namespace Spreadsheet

/-- A merged region: the range that was given for it, and the cells that this range names. -/
structure MergeRegion where
  given : Range Number
  cells : Range Int
  named : given.toInt? = some cells

namespace MergeRegion

/-- The region for a given range, checked on its own. -/
def ofRange (range : Range Number) : Except SheetError MergeRegion :=
  match accepted : range.checked with
  | .error e => .error e
  | .ok cells =>
    if cells.size < 2 then .error (.singleCellMerge range)
    else .ok ⟨range, cells, Range.toInt?_of_checked accepted⟩

/-- The first cell, which alone keeps a value. -/
def anchor (region : MergeRegion) : Address Number := region.given.topLeft

/-- The region shares a cell with a range of any numbers. -/
def overlaps (region : MergeRegion) (range : Range Number) : Bool :=
  match range.toInt? with
  | some range => region.cells.overlaps range
  | none => region.given.overlaps range

/-- The region lies inside a range of any numbers. -/
def isInside (region : MergeRegion) (range : Range Number) : Bool :=
  match range.toInt? with
  | some range => range.containsRange region.cells
  | none => range.containsRange region.given

end MergeRegion

structure MergeRegistry where
  covering : Std.TreeMap (Address Int) MergeRegion Address.rowMajor := ∅
  regions : List MergeRegion := []

namespace MergeRegistry

/-- The region that covers a cell. -/
def at? (registry : MergeRegistry) (address : Address Number) : Option MergeRegion :=
  address.toInt?.bind (registry.covering[·]?)

/-- A region covers the cell. -/
def isMerged (registry : MergeRegistry) (address : Address Number) : Bool := (registry.at? address).isSome

/-- The cell that stands for a cell: the first one of its region, or itself. -/
def resolve (registry : MergeRegistry) (address : Address Number) : Address Number :=
  ((registry.at? address).map MergeRegion.anchor).getD address

/-- A cell is the first one of a region. -/
def isAnchor (registry : MergeRegistry) (address : Address Number) : Bool :=
  match address.toInt? with
  | some address => registry.regions.any (·.cells.topLeft == address)
  | none => false

/-- Regions that share a cell with a range, in order. -/
def inRange (registry : MergeRegistry) (range : Range Number) : List MergeRegion :=
  registry.regions.filter (·.overlaps range)

/-- Regions that lie inside a range, in order. -/
def inside (registry : MergeRegistry) (range : Range Number) : List MergeRegion :=
  (registry.inRange range).filter (·.isInside range)

def add (registry : MergeRegistry) (region : MergeRegion) : MergeRegistry :=
  { covering := region.cells.cells.foldl (·.insert · region) registry.covering
    regions := registry.regions ++ [region] }

/-- Registers a region. The first of its cells that is covered already tells which region is in the way. -/
def merge (registry : MergeRegistry) (range : Range Number) : Except SheetError (MergeRegion × MergeRegistry) := do
  let region ← MergeRegion.ofRange range
  match region.cells.findSome? (registry.covering[·]?) with
  | some existing => throw (.overlappingMerge region.given existing.given)
  | none => return (region, registry.add region)

def remove (registry : MergeRegistry) (region : MergeRegion) : MergeRegistry :=
  { covering := region.cells.cells.foldl (·.erase ·) registry.covering
    regions := registry.regions.filter (·.cells.topLeft != region.cells.topLeft) }

/-- Removes the region that covers a cell, if there is one. -/
def unmerge (registry : MergeRegistry) (address : Address Number) : Option MergeRegion × MergeRegistry :=
  match registry.at? address with
  | some region => (some region, registry.remove region)
  | none => (none, registry)

/-- Removes the regions that share a cell with a range. -/
def unmergeInRange (registry : MergeRegistry) (range : Range Number) : List MergeRegion × MergeRegistry :=
  let removed := registry.inRange range
  (removed, removed.foldl remove registry)

end MergeRegistry
end Spreadsheet
