import Spreadsheet.Proofs.Fill.Target
import Spreadsheet.Sheet.Filling

/-! What a fill makes for each cell of its target: the line of the source that leads to the cell goes on by its pattern,
as far as the cell is from the source. -/
namespace Spreadsheet

theorem Range.getElem?_span_eq_some_iff {first last place : Int} {index : Nat} :
    (span first last)[index]? = some place ↔ place = first + index ∧ place ≤ last := by
  simp only [span, List.getElem?_map, Option.map_eq_some_iff, List.getElem?_eq_some_iff, List.length_range,
    List.getElem_range]
  constructor
  · rintro ⟨step, ⟨small, rfl⟩, rfl⟩
    omega
  · rintro ⟨rfl, small⟩
    exact ⟨index, ⟨by omega, rfl⟩, rfl⟩

namespace FillDirection
variable {direction : FillDirection} {source target range : Range Int} {cell : Address Int} {line : Int} {index : Nat}

/-- How many cells lie between the source and a cell in the direction. -/
def distance (direction : FillDirection) (source : Range Int) (cell : Address Int) : Int :=
  match direction with
  | ⟨true, false⟩ => cell.row - source.bottom - 1
  | ⟨true, true⟩ => source.top - cell.row - 1
  | ⟨false, false⟩ => cell.column - source.right - 1
  | ⟨false, true⟩ => source.left - cell.column - 1

/-- The cells of the source on the line of a cell, with that next to the gap at the end. -/
def sourceLine (direction : FillDirection) (source : Range Int) (cell : Address Int) : List (Address Int) :=
  let line :=
    if direction.vertical then (Range.span source.top source.bottom).map fun row => Address.mk row cell.column
    else (Range.span source.left source.right).map fun column => Address.mk cell.row column
  if direction.backward then line.reverse else line

/-- One line of a range in the order in which the fill passes its cells. -/
def run (direction : FillDirection) (range : Range Int) (line : Int) : List (Address Int) :=
  let range := range.oriented direction.vertical
  let run := (Range.span range.top range.bottom).map fun place => (Address.mk place line).oriented direction.vertical
  if direction.backward then run.reverse else run

theorem runs_eq (direction : FillDirection) (range : Range Int) :
    direction.runs range = (Range.span (range.oriented direction.vertical).left
      (range.oriented direction.vertical).right).map (direction.run range) := rfl

theorem run_source (direction : FillDirection) (source : Range Int) (cell : Address Int) :
    direction.run source (cell.oriented direction.vertical).column = direction.sourceLine source cell := by
  obtain ⟨vertical, backward⟩ := direction
  cases vertical <;> cases backward <;> rfl

theorem length_run (direction : FillDirection) (range : Range Int) (line : Int) :
    (direction.run range line).length = (direction.length range).toNat := by
  unfold run length Range.rows
  cases direction.backward <;> simp [Range.span]

/-- Places along a line are counted from the end at which the fill begins. -/
theorem getElem?_run (found : (direction.run range line)[index]? = some cell) :
    (cell.oriented direction.vertical).column = line ∧
      (cell.oriented direction.vertical).row =
        if direction.backward then (range.oriented direction.vertical).bottom - index
        else (range.oriented direction.vertical).top + index := by
  unfold run at found
  cases backward : direction.backward
  · simp only [backward, Bool.false_eq_true, ↓reduceIte, List.getElem?_map, Option.map_eq_some_iff] at found ⊢
    obtain ⟨place, placed, rfl⟩ := found
    rw [Address.oriented_oriented]
    exact ⟨rfl, (Range.getElem?_span_eq_some_iff.mp placed).1⟩
  · simp only [backward, ↓reduceIte] at found ⊢
    obtain ⟨small, _⟩ := List.getElem?_eq_some_iff.mp found
    rw [List.getElem?_reverse (by simpa using small), List.length_map, List.getElem?_map, Option.map_eq_some_iff] at found
    obtain ⟨place, placed, rfl⟩ := found
    rw [Address.oriented_oriented]
    refine ⟨rfl, ?_⟩
    obtain ⟨same, _⟩ := Range.getElem?_span_eq_some_iff.mp placed
    simp only [List.length_reverse, List.length_map, Range.span, List.length_range] at small same ⊢
    omega

theorem mem_run : cell ∈ direction.run range line ↔
    (cell.oriented direction.vertical).column = line ∧
      (range.oriented direction.vertical).top ≤ (cell.oriented direction.vertical).row ∧
      (cell.oriented direction.vertical).row ≤ (range.oriented direction.vertical).bottom := by
  have listed : cell ∈ direction.run range line ↔ ∃ place ∈ Range.span (range.oriented direction.vertical).top
      (range.oriented direction.vertical).bottom, (Address.mk place line).oriented direction.vertical = cell := by
    unfold run
    split <;> simp
  rw [listed]
  constructor
  · rintro ⟨place, within, rfl⟩
    rw [Address.oriented_oriented]
    exact ⟨rfl, Range.mem_span.mp within⟩
  · rintro ⟨rfl, within⟩
    exact ⟨_, Range.mem_span.mpr within, Address.oriented_oriented _ cell⟩

/-- The lines of a target are those of its source. -/
theorem Adjoins.lines (adjoins : direction.Adjoins source target) :
    (target.oriented direction.vertical).left = (source.oriented direction.vertical).left ∧
      (target.oriented direction.vertical).right = (source.oriented direction.vertical).right :=
  (adjoins_iff.mp adjoins).2

/-- The cells of a target are counted by their distance from the source. -/
theorem Adjoins.distance (adjoins : direction.Adjoins source target)
    (found : (direction.run target line)[index]? = some cell) : direction.distance source cell = index := by
  have place := (getElem?_run found).2
  obtain ⟨vertical, backward⟩ := direction
  cases vertical <;> cases backward <;>
    simp only [Adjoins, FillDirection.distance, Range.oriented, Range.transpose, Address.oriented, Address.transpose,
      Bool.false_eq_true, ↓reduceIte] at * <;>
    omega

end FillDirection

namespace Sheet
variable {sheet : Sheet} {direction : FillDirection} {origin : Address Number} {source target : Range Int}

/-- What the pattern of a line of the source makes for a cell in the direction. -/
def continuation (sheet : Sheet) (direction : FillDirection) (source : Range Int) (cell : Address Int) : Option Cell :=
  (FillPattern.detect sheet.equality ((direction.sourceLine source cell).map sheet.grid.cell?)).generate
    (.ofNat (direction.distance source cell).toNat)

/-- What a fill makes for a cell, so many places after the line of the source that leads to it. -/
def made (sheet : Sheet) (origin : Address Number) (generator : Option Generator) (line : List (Address Int))
    (address : Address Int) (index : Nat) : Except SheetError (Option Cell) :=
  let cells := line.map sheet.grid.cell?
  match generator with
  | some generator => generator (address.walkedFrom origin) (cells[index % cells.length]?).join
  | none => .ok ((FillPattern.detect sheet.equality cells).generate (.ofNat index))

variable {generator : Option Generator}

/-- A fill goes line by line. -/
theorem continued_eq (adjoins : direction.Adjoins source target) :
    sheet.continued direction origin source target generator =
      (Range.span (source.oriented direction.vertical).left (source.oriented direction.vertical).right).flatMap fun line =>
        (direction.run target line).zipIdx.map fun (address, index) =>
          (address, sheet.made origin generator (direction.run source line) address index) := by
  unfold continued
  rw [FillDirection.runs_eq, FillDirection.runs_eq, adjoins.lines.1, adjoins.lines.2, List.zip_map', List.flatMap_map]
  cases generator <;> rfl

/-- What a fill makes for a cell depends on the line and on the place of the cell in it. -/
theorem exists_place_of_mem_continued (adjoins : direction.Adjoins source target)
    {pair : Address Int × Except SheetError (Option Cell)}
    (member : pair ∈ sheet.continued direction origin source target generator) :
    ∃ line index, direction.run source line ∈ direction.runs source ∧ (direction.run target line)[index]? = some pair.1 ∧
      pair.2 = sheet.made origin generator (direction.run source line) pair.1 index := by
  rw [continued_eq adjoins] at member
  obtain ⟨line, crosses, inside⟩ := List.mem_flatMap.mp member
  obtain ⟨⟨address, index⟩, placed, rfl⟩ := List.mem_map.mp inside
  exact ⟨line, index, List.mem_map_of_mem crosses, List.mk_mem_zipIdx_iff_getElem?.mp placed, rfl⟩

/-- Without a generator a fill makes the continuation of the source for every cell that it meets. -/
theorem made_of_mem_continued (adjoins : direction.Adjoins source target)
    {pair : Address Int × Except SheetError (Option Cell)}
    (member : pair ∈ sheet.continued direction origin source target none) :
    pair.2 = .ok (sheet.continuation direction source pair.1) := by
  obtain ⟨line, index, _, found, same⟩ := exists_place_of_mem_continued adjoins member
  have column := (FillDirection.getElem?_run found).1
  unfold continuation
  rw [adjoins.distance found, Int.toNat_natCast, ← FillDirection.run_source, column]
  exact same

/-- A fill meets the cells of its target. -/
theorem mem_continued (adjoins : direction.Adjoins source target) {cell : Address Int} :
    cell ∈ (sheet.continued direction origin source target generator).map Prod.fst ↔ target.contains cell = true := by
  have listed : cell ∈ (sheet.continued direction origin source target generator).map Prod.fst ↔
      ∃ line ∈ Range.span (target.oriented direction.vertical).left (target.oriented direction.vertical).right,
        cell ∈ direction.run target line := by
    simp only [continued_eq adjoins, adjoins.lines.1, adjoins.lines.2, List.map_flatMap, List.map_map, List.mem_flatMap,
      Function.comp_def, List.zipIdx_map_fst]
  rw [listed, ← Range.contains_oriented direction.vertical, Range.contains_iff]
  constructor
  · rintro ⟨line, within, member⟩
    obtain ⟨rfl, place⟩ := FillDirection.mem_run.mp member
    exact ⟨place.1, place.2, Range.mem_span.mp within⟩
  · intro ⟨top, bottom, columns⟩
    exact ⟨_, Range.mem_span.mpr columns, FillDirection.mem_run.mpr ⟨rfl, top, bottom⟩⟩

end Sheet
end Spreadsheet
