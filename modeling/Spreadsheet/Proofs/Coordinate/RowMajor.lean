import Mathlib.Data.List.Sort
import Spreadsheet.Proofs.Coordinate.Area

/-! The order of cells by rows and, within a row, by columns. It is a strict order, so that nothing but its cells decides
what a list in this order is. -/
namespace Spreadsheet

namespace Address
variable {a b : Address Int}

/-- A cell comes first by its row, and in a row by its column. -/
def Precedes (a b : Address Int) : Prop := a.row < b.row ∨ a.row = b.row ∧ a.column < b.column

theorem rowMajor_eq_lt_iff : rowMajor a b = .lt ↔ a.Precedes b := by
  simp only [rowMajor, compareLex, compareOn, Ordering.then_eq_lt, Int.compare_eq_lt, Int.compare_eq_eq]
  rfl

instance : Std.Irrefl Precedes where
  irrefl cell precedes := by
    unfold Precedes at precedes
    omega

/-- Lists in this order that have the same cells are the same. -/
theorem eq_of_pairwise_precedes {first second : List (Address Int)} (ordered : first.Pairwise Precedes)
    (other : second.Pairwise Precedes) (same : ∀ cell, cell ∈ first ↔ cell ∈ second) : first = second := by
  have antisymmetric : Std.Antisymm Precedes := ⟨fun a b forth back => by
    unfold Precedes at forth back
    omega⟩
  exact ordered.eq_of_mem_iff other same

end Address

namespace Range

theorem pairwise_span (first last : Int) : (span first last).Pairwise (· < ·) :=
  List.pairwise_lt_range.map _ fun a b less => by omega

/-- A range lists its cells row by row. -/
theorem pairwise_cells (range : Range Int) : range.cells.Pairwise Address.Precedes := by
  unfold cells
  rw [List.pairwise_flatMap]
  refine ⟨fun row _ => (pairwise_span _ _).map _ fun _ _ less => .inr ⟨rfl, less⟩, ?_⟩
  refine (pairwise_span _ _).imp fun {row later} less => ?_
  intro first inFirst second inSecond
  obtain ⟨_, _, rfl⟩ := List.mem_map.mp inFirst
  obtain ⟨_, _, rfl⟩ := List.mem_map.mp inSecond
  exact .inl less

end Range
end Spreadsheet
