import Mathlib.Logic.Function.Basic
import Spreadsheet.Proofs.Sheet.GridSoundness

/-! Contents that are carried to other cells, each to where a cell is taken; to take a cell there and then again is to
come back. A grid stays sound, with its record of populated cells. -/
namespace Spreadsheet
variable {turn : Address Int → Address Int} {cell : Address Int}

section layer
variable {α : Type}

/-- A layer with each content at the cell where its own is taken. -/
def Layer.carried (turn : Address Int → Address Int) (layer : Layer α) : Layer α :=
  .ofList (layer.toList.map fun (cell, content) => (turn cell, content)) Address.rowMajor

theorem Layer.getElem?_carried (back : Function.Involutive turn) (layer : Layer α) :
    (layer.carried turn)[turn cell]? = layer[cell]? := by
  -- Distinct cells are taken to distinct cells, so no content is written over by a later one.
  have differ : (layer.toList.map fun (cell, content) => (turn cell, content)).Pairwise
      fun a b => ¬Address.rowMajor a.1 b.1 = .eq := by
    refine List.pairwise_map.mpr (Std.TreeMap.distinct_keys_toList.imp fun apart same => apart ?_)
    rw [Std.LawfulEqCmp.compare_eq_iff_eq] at same ⊢
    exact back.injective same
  unfold Layer.carried
  cases found : layer[cell]? with
  | some content =>
    refine Std.TreeMap.getElem?_ofList_of_mem Std.ReflCmp.compare_self differ ?_
    exact List.mem_map_of_mem (Std.TreeMap.mem_toList_iff_getElem?_eq_some.mpr found)
  | none =>
    refine Std.TreeMap.getElem?_ofList_of_contains_eq_false ?_
    rw [← Bool.not_eq_true, List.contains_iff_mem, List.map_map]
    intro member
    obtain ⟨⟨other, content⟩, listed, same⟩ := List.mem_map.mp member
    have held := Std.TreeMap.mem_toList_iff_getElem?_eq_some.mp listed
    rw [back.injective same, found] at held
    cases held

end layer

/-- Each of some cells is taken elsewhere. -/
def CellSet.carried (turn : Address Int → Address Int) (cells : CellSet) : CellSet :=
  .ofList (cells.toList.map turn) Address.rowMajor

theorem CellSet.mem_carried (back : Function.Involutive turn) (cells : CellSet) :
    turn cell ∈ cells.carried turn ↔ cell ∈ cells := by
  unfold CellSet.carried
  rw [Std.TreeSet.mem_ofList, List.contains_iff_mem, List.mem_map]
  simp only [back.injective.eq_iff, exists_eq_right, Std.TreeSet.mem_toList]

namespace Grid
variable {area other : Range Int} {grid : Grid}

/-- A grid with the contents of each cell where this is taken. -/
def carried (turn : Address Int → Address Int) (grid : Grid) : Grid :=
  measure
    { values := grid.values.carried turn
      styles := grid.styles.carried turn
      formats := grid.formats.carried turn
      richTexts := grid.richTexts.carried turn
      populated := CellSet.carried turn grid.populated }

variable (back : Function.Involutive turn)
include back

theorem holding_carried : (grid.carried turn).holding (turn cell) = grid.holding cell := by
  simp only [holding, carried, measure, Layer.getElem?_carried back]

theorem mem_populated_carried : turn cell ∈ (grid.carried turn).populated ↔ cell ∈ grid.populated :=
  CellSet.mem_carried back grid.populated

theorem cell?_carried : (grid.carried turn).cell? (turn cell) = grid.cell? cell := by
  have populated : (grid.carried turn).populated.contains (turn cell) = grid.populated.contains cell := by
    rw [Bool.eq_iff_iff, ← Std.TreeSet.mem_iff_contains, ← Std.TreeSet.mem_iff_contains, mem_populated_carried back]
  rw [cell?_eq, cell?_eq, populated, holding_carried back]

/-- Cells of one area are taken into another one. -/
theorem Sound.carried (sound : Sound area grid) (positive : 0 ≤ other.top ∧ 0 ≤ other.left)
    (within : ∀ cell, area.contains cell = true → other.contains (turn cell) = true) : Sound other (grid.carried turn) := by
  have inside : ∀ cell ∈ (grid.carried turn).populated, other.contains cell = true := by
    intro cell member
    rw [← back cell, mem_populated_carried back] at member
    rw [← back cell]
    exact within _ (sound.inside _ member)
  refine ⟨⟨inside, ?_, ?_⟩, fun cell => ?_, fun cell => ?_⟩
  · exact CellSet.isLast_foldl fun cell member => (coordinates_of_contains positive (inside cell member)).1
  · exact CellSet.isLast_foldl fun cell member => (coordinates_of_contains positive (inside cell member)).2
  · rw [← back cell, mem_populated_carried back, holding_carried back]
    exact sound.mem_populated _
  · rw [← back cell, holding_carried back]
    exact sound.noNull _

end Grid
end Spreadsheet
