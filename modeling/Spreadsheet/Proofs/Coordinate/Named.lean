import Spreadsheet.Fill.Direction
import Spreadsheet.Proofs.Coordinate.Moved
import Spreadsheet.Proofs.Merge.Rectangles
import Spreadsheet.Proofs.Number.Order

/-! Given ranges that name whole ones are compared, joined and turned like these. To turn a range changes nothing about
its cells but their places, so that work along rows is work along columns. -/
namespace Spreadsheet

namespace Number
variable {x y : Number} {a b : Int}

theorem le_iff (first : x.toInt? = some a) (second : y.toInt? = some b) : x ≤ y ↔ a ≤ b := by
  change x.compare? y = some .lt ∨ x.compare? y = some .eq ↔ a ≤ b
  rw [compare?_of_toInt? first second, Option.some.injEq, Option.some.injEq, Int.compare_eq_lt, Int.compare_eq_eq]
  omega

theorem beq_iff (first : x.toInt? = some a) (second : y.toInt? = some b) : (x == y) = true ↔ a = b := by
  change (x.compare? y == some .eq) = true ↔ a = b
  rw [beq_iff_eq, compare?_of_toInt? first second, Option.some.injEq, Int.compare_eq_eq]

theorem toInt?_one : (1 : Number).toInt? = some 1 := toInt?_ofNat (by decide)

theorem toInt?_zero : (0 : Number).toInt? = some 0 := toInt?_ofNat (by decide)

theorem toInt?_min (first : x.toInt? = some a) (second : y.toInt? = some b) : (min x y).toInt? = some (min a b) := by
  change (Number.min x y).toInt? = _
  unfold Number.min
  rw [compare?_of_toInt? first second]
  rcases Int.lt_trichotomy a b with less | rfl | greater
  · rw [Int.compare_eq_lt.mpr less, Int.min_eq_left (Int.le_of_lt less)]
    exact first
  · rw [Int.compare_eq_eq.mpr rfl, Int.min_self]
    dsimp only
    split <;> assumption
  · rw [Int.compare_eq_gt.mpr greater, Int.min_eq_right (Int.le_of_lt greater)]
    exact second

theorem toInt?_max (first : x.toInt? = some a) (second : y.toInt? = some b) : (max x y).toInt? = some (max a b) := by
  change (Number.max x y).toInt? = _
  unfold Number.max
  rw [compare?_of_toInt? first second]
  rcases Int.lt_trichotomy a b with less | rfl | greater
  · rw [Int.compare_eq_lt.mpr less, Int.max_eq_right (Int.le_of_lt less)]
    exact second
  · rw [Int.compare_eq_eq.mpr rfl, Int.max_self]
    dsimp only
    split <;> assumption
  · rw [Int.compare_eq_gt.mpr greater, Int.max_eq_left (Int.le_of_lt greater)]
    exact first

end Number

namespace Address

@[simp] theorem oriented_oriented {α : Type} (vertical : Bool) (address : Address α) :
    (address.oriented vertical).oriented vertical = address := by
  cases vertical <;> rfl

theorem same_iff {given other : Address Number} {cell place : Address Int} (first : given.toInt? = some cell)
    (second : other.toInt? = some place) : given.same other = true ↔ cell = place := by
  obtain ⟨row, column⟩ := toInt?_eq_some_iff.mp first
  obtain ⟨otherRow, otherColumn⟩ := toInt?_eq_some_iff.mp second
  rw [same, Bool.and_eq_true, Number.beq_iff row otherRow, Number.beq_iff column otherColumn]
  cases cell
  cases place
  rw [mk.injEq]

end Address

namespace Range
variable {a b range : Range Int} {cell : Address Int}

@[simp] theorem oriented_oriented {α : Type} (vertical : Bool) (range : Range α) :
    (range.oriented vertical).oriented vertical = range := by
  cases vertical <;> rfl

theorem contains_oriented (vertical : Bool) :
    (range.oriented vertical).contains (cell.oriented vertical) = range.contains cell := by
  rw [Bool.eq_iff_iff, contains_iff, contains_iff]
  cases vertical
  · simp only [oriented, transpose, Address.oriented, Address.transpose, Bool.false_eq_true, ↓reduceIte]
    omega
  · rfl

theorem containsRange_oriented (vertical : Bool) :
    (a.oriented vertical).containsRange (b.oriented vertical) = a.containsRange b := by
  rw [Bool.eq_iff_iff, containsRange_iff, containsRange_iff]
  cases vertical
  · simp only [oriented, transpose, Bool.false_eq_true, ↓reduceIte]
    omega
  · rfl

theorem proper_oriented (vertical : Bool) : (range.oriented vertical).Proper ↔ range.Proper := by
  cases vertical
  · exact And.comm
  · rfl

theorem isSmall_oriented (vertical : Bool) : (range.oriented vertical).IsSmall ↔ range.IsSmall := by
  cases vertical
  · simp only [IsSmall, oriented, transpose, Bool.false_eq_true, ↓reduceIte]
    tauto
  · rfl

theorem contains_of_oriented {vertical : Bool} (inside : (range.oriented vertical).contains cell = true) :
    range.contains (cell.oriented vertical) = true := by
  rwa [← contains_oriented vertical, Address.oriented_oriented]

theorem Apart.oriented (apart : a.Apart b) (vertical : Bool) : (a.oriented vertical).Apart (b.oriented vertical) :=
  fun cell ⟨here, there⟩ => apart (cell.oriented vertical) ⟨contains_of_oriented here, contains_of_oriented there⟩

theorem IsLarge.oriented (large : range.IsLarge) (vertical : Bool) : (range.oriented vertical).IsLarge := by
  obtain ⟨first, second, different, here, there⟩ := large
  refine ⟨first.oriented vertical, second.oriented vertical, ?_, ?_, ?_⟩
  · intro same
    have back := congrArg (Address.oriented vertical) same
    exact different (by simpa using back)
  · rwa [contains_oriented]
  · rwa [contains_oriented]

/-- A range inside a small one is small. -/
theorem IsSmall.of_containsRange (small : a.IsSmall) (inside : a.containsRange b = true) (proper : b.Proper) :
    b.IsSmall := by
  rw [containsRange_iff] at inside
  unfold Proper at proper
  unfold IsSmall at *
  omega

variable {given other : Range Number}

theorem toInt?_oriented (named : given.toInt? = some range) (vertical : Bool) :
    (given.oriented vertical).toInt? = some (range.oriented vertical) := by
  obtain ⟨top, left, bottom, right⟩ := toInt?_eq_some_iff.mp named
  cases vertical
  · exact toInt?_eq_some_iff.mpr ⟨left, top, right, bottom⟩
  · exact named

theorem containsRange_of_named (first : given.toInt? = some a) (second : other.toInt? = some b) :
    given.containsRange other = a.containsRange b := by
  obtain ⟨top, left, bottom, right⟩ := toInt?_eq_some_iff.mp first
  obtain ⟨otherTop, otherLeft, otherBottom, otherRight⟩ := toInt?_eq_some_iff.mp second
  simp only [containsRange, Number.le_iff top otherTop, Number.le_iff otherBottom bottom, Number.le_iff left otherLeft,
    Number.le_iff otherRight right]

theorem toInt?_union (first : given.toInt? = some a) (second : other.toInt? = some b) :
    (given.union other).toInt? = some (a.union b) := by
  obtain ⟨top, left, bottom, right⟩ := toInt?_eq_some_iff.mp first
  obtain ⟨otherTop, otherLeft, otherBottom, otherRight⟩ := toInt?_eq_some_iff.mp second
  exact toInt?_eq_some_iff.mpr ⟨Number.toInt?_min top otherTop, Number.toInt?_min left otherLeft,
    Number.toInt?_max bottom otherBottom, Number.toInt?_max right otherRight⟩

/-- The count of rows of a small range. -/
theorem toInt?_rows (named : given.toInt? = some range) (small : range.IsSmall) : given.rows.toInt? = some range.rows := by
  obtain ⟨top, _, bottom, _⟩ := toInt?_eq_some_iff.mp named
  obtain ⟨lowTop, _, lowBottom, _⟩ := small
  exact Number.toInt?_add (Number.toInt?_sub bottom top (by omega)) Number.toInt?_one (by omega)

end Range
end Spreadsheet
