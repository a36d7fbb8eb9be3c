import Spreadsheet.Proofs.Coordinate.RowMajor
import Spreadsheet.Proofs.Sheet.Refinement

/-! What is read of a range is what is read of the whole sheet, less the cells elsewhere. A range is walked or the
populated cells are gone through; both list the same cells in the same order, as a strict order leaves them no choice. -/
namespace Spreadsheet

namespace Grid
variable {grid : Grid}

theorem pairwise_populated (grid : Grid) : grid.populated.toList.Pairwise Address.Precedes :=
  Std.TreeSet.ordered_toList.imp Address.rowMajor_eq_lt_iff.mp

/-- To walk a range and to go through the populated cells comes to the same, whatever the range is: without rows or without
columns it has no cells either way. -/
theorem filter_cells_eq (grid : Grid) (range : Range Int) :
    range.cells.filter grid.populated.contains = grid.populated.toList.filter range.contains := by
  refine Address.eq_of_pairwise_precedes (range.pairwise_cells.filter _) (grid.pairwise_populated.filter _) fun cell => ?_
  simp only [List.mem_filter, Range.mem_cells, Std.TreeSet.contains_iff_mem, Std.TreeSet.mem_toList, and_comm]

theorem populatedIn_eq (grid : Grid) (range : Range Int) :
    grid.populatedIn range = grid.populated.toList.filter range.contains := by
  unfold populatedIn
  split
  · exact grid.filter_cells_eq range
  · rfl

/-- Cells that are collected keep their order; those that have nothing are left out. -/
theorem collect_filter (grid : Grid) (addresses : List (Address Int)) (wanted : Address Int → Bool) :
    grid.collect (addresses.filter wanted) = (grid.collect addresses).filter (wanted ·.1) := by
  unfold collect
  rw [List.filter_filterMap, List.filterMap_filter]
  refine List.filterMap_congr fun address _ => ?_
  cases grid.cell? address <;> cases passes : wanted address <;> simp [Option.filter, passes]

end Grid

/-- What is read of a range with whole coordinates, which may be inverted or leave the sheet. -/
structure Sheet.ReadsRange (sheet : Sheet) (range : Range Number) (cells : Range Int) : Prop where
  restricted : sheet.cellsIn range = sheet.cells.filter fun (cell, _) => cells.contains cell
  ordered : (sheet.cells.map Prod.fst).Pairwise Address.Precedes
  walked : cells.cells.filter sheet.grid.populated.contains = sheet.grid.populated.toList.filter cells.contains
  listed : ∀ cell content, (cell, content) ∈ sheet.cells ↔ sheet.contents.cell? cell = some content

namespace Sheet
variable {sheet : Sheet} {rows columns : Nat}

theorem cellsIn_eq {range : Range Number} {cells : Range Int} (named : range.toInt? = some cells) (sheet : Sheet) :
    sheet.cellsIn range = sheet.cells.filter fun (cell, _) => cells.contains cell := by
  unfold cellsIn Sheet.cells Grid.cells Grid.populatedInGiven
  simp only [named]
  rw [Grid.populatedIn_eq, Grid.collect_filter, List.filter_map]
  rfl

theorem pairwise_cells (sheet : Sheet) : (sheet.cells.map Prod.fst).Pairwise Address.Precedes := by
  unfold Sheet.cells Grid.cells Grid.collect
  rw [List.map_map, List.map_filterMap]
  refine sheet.grid.pairwise_populated.filterMap _ fun a b precedes c first d second => ?_
  simp only [Option.map_map, Option.map_eq_some_iff] at first second
  obtain ⟨_, _, rfl⟩ := first
  obtain ⟨_, _, rfl⟩ := second
  exact precedes

/-- The whole sheet has the cells that hold something. -/
theorem Sound.mem_cells (sound : sheet.Sound rows columns) {cell : Address Int} {content : Cell} :
    (cell, content) ∈ sheet.cells ↔ sheet.contents.cell? cell = some content := by
  unfold Sheet.cells Grid.cells
  rw [sound.map_plain_collect, List.mem_filterMap]
  simp only [Option.map_eq_some_iff, Prod.mk.injEq, Std.TreeSet.mem_toList, sound.mem_populated]
  constructor
  · rintro ⟨_, _, _, found, rfl, rfl⟩
    exact found
  · intro found
    refine ⟨cell, ?_, content, found, rfl, rfl⟩
    by_contra empty
    rw [Contents.cell?, if_neg empty] at found
    cases found

end Sheet

namespace SheetWorld
variable {world : SheetWorld}

/-- Ranges that are walked and ranges for which all populated cells are gone through are read alike. -/
theorem Reachable.readsRange (reachable : Reachable world) {range : Range Number} {cells : Range Int}
    (named : range.toInt? = some cells) : world.state.ReadsRange range cells := by
  obtain ⟨_, _, sound, _⟩ := reachable.sound
  exact ⟨Sheet.cellsIn_eq named _, world.state.pairwise_cells, world.state.grid.filter_cells_eq cells,
    fun _ _ => sound.mem_cells⟩

/-- The last cells are written first. The range starts above the sheet and is too large to be walked. -/
theorem readsRange_above :
    let start : SheetWorld := { state := { rows := maxRows, columns := maxColumns } }
    let world := [⟨9, 9⟩, ⟨1, 1⟩, ⟨0, 2⟩, ⟨0, 0⟩].foldl
      (fun world address => (sheetHost.act 3 (.request (.setValue address (some (.number 1))))).leaves world) start
    world.state.ReadsRange ⟨-1, 0, 1, 2⟩ ⟨-1, 0, 1, 2⟩ ∧
      (world.state.cellsIn ⟨-1, 0, 1, 2⟩).map Prod.fst = [⟨0, 0⟩, ⟨0, 2⟩, ⟨1, 1⟩] ∧
      world.state.cellsIn ⟨1, 2, -1, 0⟩ = [] := by
  intro start world
  have begin : Reachable start := .created (.record []) {} [] rfl rfl
  have reachable : Reachable world := (((begin.acted 3 _).acted 3 _).acted 3 _).acted 3 _
  exact ⟨reachable.readsRange (by decide +kernel), by decide +kernel, List.isEmpty_iff.mp (by decide +kernel)⟩

end SheetWorld
end Spreadsheet
