import Mathlib.Tactic.Tauto
import Spreadsheet.Fill.Direction
import Spreadsheet.Merge.Tiling
import Spreadsheet.Proofs.Coordinate.Named

/-! Rows and columns exchanged. A range and a fill are told along an axis, so that what is done with the axis turned to
what is transposed is the transpose of what is done. -/
namespace Spreadsheet

namespace Address
variable {α : Type} {address : Address α}

theorem transpose_inj {a b : Address α} : a.transpose = b.transpose ↔ a = b :=
  ⟨fun same => congrArg Address.transpose same, fun same => congrArg Address.transpose same⟩

theorem oriented_not (vertical : Bool) (address : Address α) :
    address.oriented (!vertical) = (address.oriented vertical).transpose := by
  cases vertical <;> rfl

end Address

namespace Range
variable {α : Type} {range : Range Number} {cells : Range Int}

theorem transpose_inj {a b : Range α} : a.transpose = b.transpose ↔ a = b :=
  ⟨fun same => congrArg Range.transpose same, fun same => congrArg Range.transpose same⟩

/-- Along the other axis a transposed range is what the range is along the first. -/
@[simp] theorem transpose_oriented_not (vertical : Bool) (range : Range α) :
    range.transpose.oriented (!vertical) = range.oriented vertical := by
  cases vertical <;> rfl

theorem oriented_not (vertical : Bool) (range : Range α) :
    range.oriented (!vertical) = (range.oriented vertical).transpose := by
  cases vertical <;> rfl

theorem toInt?_transpose : range.transpose.toInt? = some cells.transpose ↔ range.toInt? = some cells := by
  simp only [toInt?_eq_some_iff, transpose]
  tauto

theorem toInt?_transpose_eq_none : range.transpose.toInt? = none ↔ range.toInt? = none := by
  simp only [Option.eq_none_iff_forall_ne_some]
  exact ⟨fun none cells named => none _ (toInt?_transpose.mpr named),
    fun none cells named => none cells.transpose (toInt?_transpose.mp named)⟩

theorem contains_transpose {cell : Address Int} : cells.transpose.contains cell.transpose = cells.contains cell :=
  contains_oriented false

theorem proper_transpose : cells.transpose.Proper ↔ cells.Proper := proper_oriented false

theorem size_transpose : cells.transpose.size = cells.size := Int.mul_comm _ _

theorem checked_transpose : range.transpose.checked = .ok cells.transpose ↔ range.checked = .ok cells := by
  rw [checked_ok_iff, checked_ok_iff, toInt?_transpose, proper_transpose]
  simp only [transpose]
  tauto

theorem apart_transpose {a b : Range Int} : a.transpose.Apart b.transpose ↔ a.Apart b :=
  ⟨fun apart => apart.oriented false, fun apart => apart.oriented false⟩

section order
variable {a b : Range α}

theorem containsRange_transpose [LE α] [DecidableLE α] : a.transpose.containsRange b.transpose = a.containsRange b := by
  rw [Bool.eq_iff_iff]
  simp only [containsRange, Bool.and_eq_true, decide_eq_true_eq]
  simp only [transpose]
  tauto

theorem overlaps_transpose [LT α] [DecidableLT α] : a.transpose.overlaps b.transpose = a.overlaps b := by
  rw [Bool.eq_iff_iff]
  simp only [overlaps, Bool.not_eq_true', Bool.or_eq_false_iff, decide_eq_false_iff_not]
  simp only [transpose]
  tauto

end order
end Range

namespace FillDirection
variable {direction : FillDirection}

/-- The direction among rows and columns exchanged. -/
def turned (direction : FillDirection) : FillDirection := ⟨!direction.vertical, direction.backward⟩

section strip
variable {α : Type} {source destination : Range α}

/-- A destination that leaves a source along both axes. -/
def LeavesBoth [LT α] (source destination : Range α) : Prop :=
  (source.bottom < destination.bottom ∨ destination.top < source.top) ∧
    (source.right < destination.right ∨ destination.left < source.left)

theorem of?_transpose [LT α] [DecidableLT α] (single : ¬LeavesBoth source destination) :
    of? source.transpose destination.transpose = (of? source destination).map turned := by
  unfold LeavesBoth at single
  simp only [of?, Range.transpose]
  by_cases down : source.bottom < destination.bottom <;> by_cases up : destination.top < source.top <;>
    by_cases right : source.right < destination.right <;> by_cases left : destination.left < source.left <;>
    simp_all [turned]

theorem strip_transpose [Add α] [Sub α] [OfNat α 1] : direction.turned.strip source.transpose destination.transpose =
    (direction.strip source destination).transpose := by
  obtain ⟨vertical, backward⟩ := direction
  cases vertical <;> cases backward <;> rfl

end strip

theorem toward?_transpose {source destination : Range Number} (single : ¬LeavesBoth source destination) :
    toward? source.transpose destination.transpose =
      (toward? source destination).map fun found => (found.1.turned, found.2.transpose) := by
  unfold toward?
  rw [of?_transpose single, Option.map_map, Option.map_map]
  congr 1
  funext direction
  exact Prod.ext rfl strip_transpose

theorem endingAt_transpose (target : Range Number) (farEnd : Number) :
    direction.turned.endingAt target.transpose farEnd = (direction.endingAt target farEnd).transpose := by
  obtain ⟨vertical, backward⟩ := direction
  cases vertical <;> cases backward <;> rfl

theorem farEnd?_transpose (area source target : Range Int) :
    direction.turned.farEnd? area.transpose source.transpose target.transpose = direction.farEnd? area source target := by
  simp only [farEnd?, turned, Range.transpose_oriented_not]

theorem runs_transpose (range : Range Int) :
    direction.turned.runs range.transpose = (direction.runs range).map (List.map Address.transpose) := by
  simp only [runs, turned, Range.transpose_oriented_not, Address.oriented_not, List.map_map]
  refine List.map_congr_left fun line _ => ?_
  simp only [Function.comp_apply]
  split <;> simp [Function.comp_def]

end FillDirection

/-- Copies along the other axis of what is transposed. -/
theorem Tiling.replicas_transpose (source target : Range Number) (vertical : Bool) (ranges : List (Range Number)) :
    replicas source.transpose target.transpose (!vertical) (ranges.map Range.transpose) =
      (replicas source target vertical ranges).map Range.transpose := by
  simp only [replicas, List.map_map, Function.comp_def, Range.transpose_oriented_not]
  simp only [Range.oriented_not]

end Spreadsheet
