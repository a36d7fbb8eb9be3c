import Spreadsheet.Proofs.Fill.Classification
import Spreadsheet.Proofs.Fill.Continuation
import Spreadsheet.Proofs.Merge.Tiles

/-! Whole spans of a source, side by side on both sides of it. A fill counts from the gap, and backward it passes the source
in the reverse order; where the spans lie does not depend on that, and copies of regions lie as the cells do. -/
namespace Spreadsheet

namespace Range

/-- The cell of a range at which a cell on one of its lines lies in its span, if spans of the range are laid side by side
along the axis. -/
def wrapped (vertical : Bool) (range : Range Int) (cell : Address Int) : Address Int :=
  if vertical then ⟨range.top + (cell.row - range.top) % range.rows, cell.column⟩
  else ⟨cell.row, range.left + (cell.column - range.left) % range.columns⟩

/-- A range that is moved along the axis. -/
def along (vertical : Bool) (steps : Int) (range : Range Int) : Range Int :=
  if vertical then range.offset steps 0 else range.offset 0 steps

variable {range inner : Range Int} {vertical : Bool}

/-- The first cell of a range that is moved by whole spans lies where that of the range is. -/
theorem wrapped_along (inside : range.containsRange inner = true) (proper : inner.Proper) (spans : Int) :
    range.wrapped vertical (inner.along vertical (spans * (range.oriented vertical).rows)).topLeft = inner.topLeft := by
  have shifted {first place : Int} (length : Int) (low : first ≤ place) (high : place < first + length) :
      first + (place + spans * length - first) % length = place := by
    have moved : place + spans * length - first = place - first + spans * length := by omega
    rw [moved, Int.add_mul_emod_self_right, Int.emod_eq_of_lt (by omega) (by omega)]
    omega
  rw [containsRange_iff] at inside
  unfold Proper at proper
  cases vertical
  · have same := shifted range.columns inside.2.2.1 (by simp only [columns]; omega)
    simpa [wrapped, along, offset, topLeft, oriented, transpose, rows, columns] using same
  · have same := shifted range.rows inside.1 (by simp only [rows]; omega)
    simpa [wrapped, along, offset, topLeft, oriented, rows] using same

end Range

namespace FillDirection
variable {direction : FillDirection} {source target : Range Int} {cell : Address Int} {line : Int} {index : Nat}

/-- A place after a line, or before it, counted from its near end, lies in its span where the place of the rest of the
count is in the line, counted from its far end. -/
private theorem emod_span {first last span : Int} (long : span = last - first + 1) (positive : 0 < span) (index : Int) :
    first + (last + 1 + index - first) % span = first + index % span ∧
      first + (first - 1 - index - first) % span = last - index % span := by
  constructor
  · have moved : last + 1 + index - first = index + span := by omega
    rw [moved, Int.add_emod_right]
  · have low := Int.emod_nonneg index (by omega : span ≠ 0)
    have high := Int.emod_lt_of_pos index positive
    have moved : first - 1 - index - first = span - 1 - index % span + span * (-(index / span) - 1) := by
      rw [Int.mul_sub, Int.mul_neg, Int.mul_one]
      have parts := Int.mul_ediv_add_emod index span
      omega
    rw [moved, Int.add_mul_emod_self_left, Int.emod_eq_of_lt (by omega) (by omega)]
    omega

/-- The cell of the source that a count of cells after it comes to, if the line of the source is passed over and over, is
where the cell lies in its span. -/
theorem Adjoins.getElem?_wrapped (adjoins : direction.Adjoins source target) (proper : source.Proper)
    (found : (direction.run target line)[index]? = some cell) :
    (direction.run source line)[index % (direction.run source line).length]? =
      some (source.wrapped direction.vertical cell) := by
  have shaped := (Range.proper_oriented direction.vertical).mpr proper
  unfold Range.Proper at shaped
  have long : ((direction.run source line).length : Int) = (source.oriented direction.vertical).rows := by
    rw [length_run, FillDirection.length]
    simp only [Range.rows]
    omega
  have positive : 0 < (source.oriented direction.vertical).rows := by
    simp only [Range.rows]
    omega
  have small : index % (direction.run source line).length < (direction.run source line).length :=
    Nat.mod_lt _ (by omega)
  obtain ⟨column, row⟩ := getElem?_run (List.getElem?_eq_getElem small)
  rw [List.getElem?_eq_getElem small, Option.some.injEq]
  generalize (direction.run source line)[index % (direction.run source line).length] = place at column row
  obtain ⟨column', row'⟩ := getElem?_run found
  obtain ⟨after, before⟩ := emod_span rfl positive index
  rw [Int.natCast_emod, long] at row
  obtain ⟨first, other⟩ := place
  obtain ⟨vertical, backward⟩ := direction
  cases vertical <;> cases backward <;>
    simp only [Adjoins, Range.wrapped, Range.oriented, Range.transpose, Address.oriented, Address.transpose,
      Bool.false_eq_true, ↓reduceIte, Address.mk.injEq] at *
  · have reached : cell.column = source.right + 1 + index := by omega
    exact ⟨column.trans column'.symm, by rw [row, reached]; exact after.symm⟩
  · have reached : cell.column = source.left - 1 - index := by omega
    exact ⟨column.trans column'.symm, by rw [row, reached]; exact before.symm⟩
  · have reached : cell.row = source.bottom + 1 + index := by omega
    exact ⟨by rw [row, reached]; exact after.symm, column.trans column'.symm⟩
  · have reached : cell.row = source.top - 1 - index := by omega
    exact ⟨by rw [row, reached]; exact before.symm, column.trans column'.symm⟩

/-- A copy of a range is the range, moved by whole spans of the source. -/
theorem Adjoins.exists_along (adjoins : direction.Adjoins source target) (proper : source.Proper) {range copy : Range Int}
    (replica : Tiling.IsReplica source target direction.vertical range copy) :
    ∃ spans : Int, copy = range.along direction.vertical (spans * direction.length source) := by
  obtain ⟨start, ⟨above, below, index, begins⟩, rfl, _⟩ := replica
  have moved (steps : Int) (same : start - (source.oriented direction.vertical).top = steps) :
      (if direction.vertical then range.offset (start - source.top) 0 else range.offset 0 (start - source.left)) =
        range.along direction.vertical steps := by
    subst same
    cases direction.vertical <;> rfl
  have shaped := (Range.proper_oriented direction.vertical).mpr proper
  have near := (adjoins_iff.mp adjoins).1
  unfold Range.Proper at shaped
  unfold FillDirection.length
  cases backward : direction.backward
  · -- The first tile starts one span after the source.
    rw [backward, if_neg Bool.false_ne_true] at near
    simp only [Range.rows] at *
    rw [if_neg (by omega)] at begins
    refine ⟨index + 1, moved _ ?_⟩
    rw [Int.add_mul]
    omega
  · rw [if_pos backward] at near
    rw [if_pos (by omega)] at begins
    refine ⟨-(index + 1), moved _ ?_⟩
    rw [Int.neg_mul]
    omega

end FillDirection

namespace FillPattern
variable {equality : CellEquality} {cells : List (Option Cell)}

/-- A run that is of no other kind is passed all over again. -/
theorem detect_eq_cycle (kind : (detect equality cells).kind = "cycle") : detect equality cells = cycle cells := by
  obtain ⟨_, same⟩ | ⟨_, ⟨_, found⟩ | ⟨_, found⟩ | ⟨_, found⟩ | same⟩ := detect_cases equality cells
  · simp [same, FillPattern.kind] at kind
  · simp [kind_of_detectLinear? found] at kind
  · simp [kind_of_detectDate? found] at kind
  · simp [kind_of_detectSuffix? found] at kind
  · exact same

/-- The counts of a cycle wrap around. -/
theorem generate_cycle (cells : List (Option Cell)) {index : Nat} (some : 0 < cells.length)
    (short : cells.length < 2 ^ (53 : Nat)) (small : index < 2 ^ (53 : Nat)) :
    (cycle cells).generate (.ofNat index) = (cells[index % cells.length]?).join := by
  have rest := Number.toInt?_rem (Number.toInt?_ofNat small) (Number.toInt?_ofNat short) small some
  simp only [generate, rest, Int.natCast_nonneg, ↓reduceIte, Int.toNat_natCast]

end FillPattern
end Spreadsheet
