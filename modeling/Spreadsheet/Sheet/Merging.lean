import Spreadsheet.Merge.Tiling
import Spreadsheet.Sheet.Session

/-! Merged regions of a sheet. Each region that comes or goes is told at once, also in a batch. -/
namespace Spreadsheet.Session

/-- Puts the registry of merged regions in place. -/
def setMerges (merges : MergeRegistry) : Session Unit := modifySheet fun sheet => { sheet with merges }

/-- Registers a region and takes away what its covered cells hold. -/
def addMerge (publish : Publisher) (range : Range Number) : Session MergeRegion := do
  let (region, merges) ← check (·.merges.merge range)
  setMerges merges
  modifyGrid (·.eraseCovered region.cells)
  publish (.merge region.cells)
  return region

def merge (publish : Publisher) (range : Range Number) : Session MergeRegion := do
  let _ ← check (·.writableRange range)
  addMerge publish range

/-- Removes the region that covers a cell. -/
def unmerge (publish : Publisher) (address : Address Number) : Session (Option MergeRegion) := do
  check Sheet.requireLive
  let (removed, merges) := (← sheet).merges.unmerge address
  setMerges merges
  removed.forM fun region => publish (.unmerge region.cells)
  return removed

/-- Removes the regions that share a cell with a range. -/
def unmergeInRange (publish : Publisher) (range : Range Number) : Session (List MergeRegion) := do
  check Sheet.requireLive
  let (removed, merges) := (← sheet).merges.unmergeInRange range
  setMerges merges
  removed.forM fun region => publish (.unmerge region.cells)
  return removed

/-- Moves the regions inside a range as its first cell moves to the destination. They push others out of their way;
those that would leave the sheet are gone. At last the source has to be writable in A1 notation. -/
def moveMerges (publish : Publisher) (source : Range Number) (destination : Address Number) :
    Session (List MergeRegion) := do
  check Sheet.requireLive
  let moving := (← sheet).merges.inside source
  moving.forM fun region => do
    setMerges ((← sheet).merges.unmerge region.anchor).2
    publish (.unmerge region.cells)
  let targets := (moving.map (·.given.moved source.topLeft destination)).filter (← sheet).holds
  let moved ← targets.mapM fun target => do
    let _ ← unmergeInRange publish target
    addMerge publish target
  let _ ← Run.lift (A1.ofRange source)
  return moved

/-- Copies the regions inside the source along an axis of the target, where other regions go. Copies that would
leave the sheet are left out. At last source and target have to be writable in A1 notation. -/
def replicateMerges (publish : Publisher) (source target : Range Number) (vertical : Bool) :
    Session (List MergeRegion) := do
  check Sheet.requireLive
  let regions := (← sheet).merges.inside source
  if regions.isEmpty then return []
  let _ ← unmergeInRange publish target
  let copies := (Tiling.replicas source target vertical (regions.map MergeRegion.given)).filter (← sheet).holds
  let created ← copies.mapM (addMerge publish)
  let _ ← Run.lift (A1.ofRange source)
  let _ ← Run.lift (A1.ofRange target)
  return created

end Spreadsheet.Session
