import Spreadsheet.Proofs.Sheet.Carried
import Spreadsheet.Proofs.Sheet.SmartFill

/-! A fill from a source whose lines are stored in the reverse order. A fill backward goes on from a source as a fill
forward does from the reversed one. -/
namespace Spreadsheet

/-- To count from the other end is to count in the reverse order. -/
theorem Range.map_span_reverse (first last : Int) :
    (span first last).map (fun place => first + last - place) = (span first last).reverse := by
  refine List.ext_getElem (by simp) fun index small _ => ?_
  simp only [span, List.length_map, List.length_range] at small
  simp only [span, List.getElem_map, List.getElem_reverse, List.getElem_range, List.length_map, List.length_range]
  omega

namespace FillDirection
variable {source : Range Int} {vertical : Bool} {line : Int} {steps : Nat}

/-- The cell on a line of a range that lies some steps before the first one. -/
def stepsBefore (vertical : Bool) (range : Range Int) (line : Int) (steps : Nat) : Address Int :=
  (Address.mk ((range.oriented vertical).top - steps) line).oriented vertical

/-- The cell on a line of a range that lies some steps after the last one. -/
def stepsAfter (vertical : Bool) (range : Range Int) (line : Int) (steps : Nat) : Address Int :=
  (Address.mk ((range.oriented vertical).bottom + steps) line).oriented vertical

theorem distance_stepsBefore : distance ⟨vertical, true⟩ source (stepsBefore vertical source line steps) = steps - 1 := by
  cases vertical <;>
    simp only [distance, stepsBefore, Range.oriented, Range.transpose, Address.oriented, Address.transpose,
      Bool.false_eq_true, ↓reduceIte] <;>
    omega

theorem distance_stepsAfter : distance ⟨vertical, false⟩ source (stepsAfter vertical source line steps) = steps - 1 := by
  cases vertical <;>
    simp only [distance, stepsAfter, Range.oriented, Range.transpose, Address.oriented, Address.transpose,
      Bool.false_eq_true, ↓reduceIte] <;>
    omega

/-- Either way a fill goes on from one line, which it passes backward or forward. -/
theorem sourceLine_stepsBefore :
    sourceLine ⟨vertical, true⟩ source (stepsBefore vertical source line steps) =
      (sourceLine ⟨vertical, false⟩ source (stepsAfter vertical source line steps)).reverse := by
  cases vertical <;> rfl

/-- Only the far edge of the destination says where a strip ends; its other edges are those of the source. -/
theorem adjoins_of_strip {direction : FillDirection} {given destination : Range Number} {target : Range Int}
    (named : given.toInt? = some source) (small : source.IsSmall)
    (arrives : (direction.strip given destination).toInt? = some target) : direction.Adjoins source target := by
  obtain ⟨top, left, bottom, right⟩ := Range.toInt?_eq_some_iff.mp (Range.toInt?_oriented named direction.vertical)
  have turned := Range.toInt?_oriented arrives direction.vertical
  obtain ⟨smallTop, _, smallBottom, _⟩ := (Range.isSmall_oriented direction.vertical).mpr small
  have above := Number.toInt?_sub top Number.toInt?_one (by omega)
  have below := Number.toInt?_add bottom Number.toInt?_one (by omega)
  unfold strip at turned
  rw [Range.oriented_oriented] at turned
  -- Nothing is known of the destination: the one edge of it in the strip is the edge that is left open here.
  obtain ⟨vertical, backward⟩ := direction
  cases backward
  · obtain ⟨start, first, _, last⟩ := Range.toInt?_eq_some_iff.mp turned
    have same := Option.some.inj (start.symm.trans below)
    have lines := And.intro (Option.some.inj (first.symm.trans left)) (Option.some.inj (last.symm.trans right))
    cases vertical <;> exact ⟨same, lines⟩
  · obtain ⟨_, first, stop, last⟩ := Range.toInt?_eq_some_iff.mp turned
    have same := Option.some.inj (stop.symm.trans above)
    have lines := And.intro (Option.some.inj (first.symm.trans left)) (Option.some.inj (last.symm.trans right))
    cases vertical <;> exact ⟨same, lines⟩

/-- The strip that is worked out from the arguments of a fill is next to the source. -/
theorem adjoins_of_toward? {direction : FillDirection} {given destination strip : Range Number} {target : Range Int}
    (named : given.toInt? = some source) (small : source.IsSmall)
    (leads : toward? given destination = some (direction, strip)) (arrives : strip.toInt? = some target) :
    direction.Adjoins source target := by
  obtain ⟨_, _, same⟩ := Option.map_eq_some_iff.mp leads
  cases same
  exact adjoins_of_strip named small arrives

end FillDirection

/-- A cell of a range and the one as far from the other end of its line; other cells are left where they are. -/
def Range.flip (vertical : Bool) (range : Range Int) (cell : Address Int) : Address Int :=
  if range.contains cell then
    (Address.mk ((range.oriented vertical).top + (range.oriented vertical).bottom - (cell.oriented vertical).row)
      (cell.oriented vertical).column).oriented vertical
  else cell

namespace Range
variable {vertical : Bool} {range : Range Int} {cell : Address Int}

theorem contains_flip : range.contains (range.flip vertical cell) = range.contains cell := by
  unfold flip
  split
  · rename_i within
    rw [within, contains_iff]
    rw [contains_iff] at within
    cases vertical <;>
      simp only [oriented, transpose, Address.oriented, Address.transpose, Bool.false_eq_true, ↓reduceIte] <;>
      omega
  · rfl

theorem flip_flip : range.flip vertical (range.flip vertical cell) = cell := by
  by_cases within : range.contains cell = true
  · have again : range.contains (range.flip vertical cell) = true := contains_flip.trans within
    rw [flip, if_pos again, flip, if_pos within]
    obtain ⟨row, column⟩ := cell
    cases vertical <;>
      simp [oriented, transpose, Address.oriented, Address.transpose]
  · rw [flip, contains_flip, if_neg within, flip, if_neg within]

/-- Cells are flipped inside an area that has all of the range. -/
theorem contains_flip_of_contains {area : Range Int} (inside : area.containsRange range = true)
    (within : area.contains cell = true) : area.contains (range.flip vertical cell) = true := by
  by_cases here : range.contains cell = true
  · exact contains_trans inside (contains_flip.trans here)
  · rwa [flip, if_neg here]

/-- The flipped cells of a line of the range are its cells in the reverse order. -/
theorem map_flip_run {run : List (Address Int)} (listed : run ∈ (FillDirection.mk vertical false).runs range) :
    run.map (range.flip vertical) = run.reverse := by
  obtain ⟨line, within, rfl⟩ := List.mem_map.mp (FillDirection.runs_eq _ _ ▸ listed)
  simp only [FillDirection.run, Bool.false_eq_true, ↓reduceIte, List.map_map, ← List.map_reverse, ← map_span_reverse]
  refine List.map_congr_left fun place inside => ?_
  have here : range.contains ((Address.mk place line).oriented vertical) = true := by
    rw [← contains_oriented vertical, Address.oriented_oriented, contains_iff]
    exact ⟨(mem_span.mp inside).1, (mem_span.mp inside).2, mem_span.mp within⟩
  simp only [Function.comp_apply, flip, here, ↓reduceIte, Address.oriented_oriented]

end Range

namespace Sheet
variable {rows columns : Nat} {sheet reverse : Sheet} {vertical : Bool} {range : Range Int}

/-- A sheet on which each line of a range is stored in the reverse order of another. It has the same regions. -/
structure Reverses (vertical : Bool) (range : Range Int) (sheet reverse : Sheet) : Prop where
  equality : reverse.equality = sheet.equality
  lines : ∀ run ∈ (FillDirection.mk vertical false).runs range,
    run.map reverse.grid.cell? = (run.map sheet.grid.cell?).reverse
  regions : reverse.regions = sheet.regions

/-- The sheet with each line of a range stored in the reverse order. -/
def withReversed (vertical : Bool) (range : Range Int) (sheet : Sheet) : Sheet :=
  { sheet with grid := sheet.grid.carried (range.flip vertical) }

theorem Sound.withReversed (sound : sheet.Sound rows columns) (inside : (areaOf rows columns).containsRange range = true) :
    (sheet.withReversed vertical range).Sound rows columns := by
  have back : Function.Involutive (range.flip vertical) := fun _ => Range.flip_flip
  have grid : (sheet.grid.carried (range.flip vertical)).Sound (areaOf rows columns) :=
    sound.grid.carried back ⟨Int.le_refl 0, Int.le_refl 0⟩ fun _ within => Range.contains_flip_of_contains inside within
  exact sound.of_parts rfl rfl grid sound.merges sound.waiting

theorem reverses_withReversed : sheet.Reverses vertical range (sheet.withReversed vertical range) where
  equality := rfl
  lines run listed := by
    have back : Function.Involutive (range.flip vertical) := fun _ => Range.flip_flip
    rw [← List.map_reverse, ← Range.map_flip_run listed, List.map_map]
    refine List.map_congr_left fun cell _ => ?_
    have carried : (sheet.grid.carried (range.flip vertical)).cell? (range.flip vertical (range.flip vertical cell)) =
        sheet.grid.cell? (range.flip vertical cell) := Grid.cell?_carried back
    rwa [Range.flip_flip] at carried
  regions := rfl

/-- As many steps before a source and after the reversed one the same cell goes on. -/
theorem Reverses.continuation (reverses : sheet.Reverses vertical range reverse) {line : Int}
    (within : line ∈ Range.span (range.oriented vertical).left (range.oriented vertical).right) (steps : Nat) :
    reverse.continuation ⟨vertical, false⟩ range (FillDirection.stepsAfter vertical range line steps) =
      sheet.continuation ⟨vertical, true⟩ range (FillDirection.stepsBefore vertical range line steps) := by
  have listed : (FillDirection.mk vertical false).sourceLine range (FillDirection.stepsAfter vertical range line steps) ∈
      (FillDirection.mk vertical false).runs range := by
    rw [FillDirection.runs_eq, ← FillDirection.run_source]
    refine List.mem_map_of_mem ?_
    rwa [FillDirection.stepsAfter, Address.oriented_oriented]
  unfold Sheet.continuation
  rw [FillDirection.distance_stepsBefore, FillDirection.distance_stepsAfter, FillDirection.sourceLine_stepsBefore,
    reverses.lines _ listed, List.map_reverse, reverses.equality]

end Sheet
end Spreadsheet
