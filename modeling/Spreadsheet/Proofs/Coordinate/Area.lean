import Spreadsheet.Coordinate.A1

/-! Ranges with whole coordinates as sets of cells: what they list, when one covers another, and the smallest range
that covers several. -/
namespace Spreadsheet

namespace Range
variable {a b range : Range Int} {cell : Address Int}

theorem contains_iff :
    range.contains cell = true ↔
      range.top ≤ cell.row ∧ cell.row ≤ range.bottom ∧ range.left ≤ cell.column ∧ cell.column ≤ range.right := by
  simp [contains, and_assoc]

theorem containsRange_iff :
    a.containsRange b = true ↔ a.top ≤ b.top ∧ b.bottom ≤ a.bottom ∧ a.left ≤ b.left ∧ b.right ≤ a.right := by
  simp [containsRange, and_assoc]

theorem overlaps_iff :
    a.overlaps b = true ↔ b.top ≤ a.bottom ∧ a.top ≤ b.bottom ∧ b.left ≤ a.right ∧ a.left ≤ b.right := by
  simp [overlaps, and_assoc]

/-- A range that ends before it starts has no cells. -/
def Proper (range : Range Int) : Prop := range.top ≤ range.bottom ∧ range.left ≤ range.right

theorem proper_single : (single cell).Proper := ⟨Int.le_refl _, Int.le_refl _⟩

theorem contains_single : (single cell).contains cell = true := by simp [contains_iff, single]

theorem eq_of_contains_single {other : Address Int} (inside : (single cell).contains other = true) :
    other = cell := by
  rw [contains_iff] at inside
  cases other; cases cell
  simp only [single] at inside
  congr <;> omega

theorem contains_trans (outer : a.containsRange b = true) (inner : b.contains cell = true) :
    a.contains cell = true := by
  rw [containsRange_iff] at outer
  rw [contains_iff] at inner ⊢
  omega

theorem containsRange_refl (range : Range Int) : range.containsRange range = true := by
  simp [containsRange_iff]

theorem containsRange_trans {c : Range Int} (outer : a.containsRange b = true) (inner : b.containsRange c = true) :
    a.containsRange c = true := by
  rw [containsRange_iff] at *
  omega

theorem containsRange_single : a.containsRange (single cell) = a.contains cell := by
  rw [Bool.eq_iff_iff, containsRange_iff, contains_iff]
  rfl

/-- Two ranges overlap if and only if they share a cell. -/
theorem overlaps_iff_exists (proper : a.Proper) (other : b.Proper) :
    a.overlaps b = true ↔ ∃ cell, a.contains cell = true ∧ b.contains cell = true := by
  simp only [overlaps_iff, contains_iff]
  unfold Proper at proper other
  constructor
  · intro meet
    exact ⟨⟨max a.top b.top, max a.left b.left⟩, by simp only; omega, by simp only; omega⟩
  · rintro ⟨cell, first, second⟩
    omega

theorem mem_span {first last value : Int} : value ∈ span first last ↔ first ≤ value ∧ value ≤ last := by
  simp only [span, List.mem_map, List.mem_range]
  constructor
  · rintro ⟨step, small, rfl⟩
    omega
  · intro within
    exact ⟨(value - first).toNat, by omega, by omega⟩

theorem mem_cells : cell ∈ range.cells ↔ range.contains cell = true := by
  simp only [cells, List.mem_flatMap, List.mem_map, mem_span, contains_iff]
  constructor
  · rintro ⟨row, rows, column, columns, rfl⟩
    exact ⟨rows.1, rows.2, columns.1, columns.2⟩
  · intro ⟨top, bottom, left, right⟩
    exact ⟨cell.row, ⟨top, bottom⟩, cell.column, ⟨left, right⟩, rfl⟩

theorem containsRange_union_left : (a.union b).containsRange a = true := by
  simp only [containsRange_iff, union]
  omega

theorem containsRange_union_right : (a.union b).containsRange b = true := by
  simp only [containsRange_iff, union]
  omega

theorem proper_union (proper : a.Proper) : (a.union b).Proper := by
  unfold Proper at *
  simp only [union]
  omega

/-- What covers two ranges covers their union. -/
theorem containsRange_union {outer : Range Int} (first : outer.containsRange a = true)
    (second : outer.containsRange b = true) : outer.containsRange (a.union b) = true := by
  simp only [containsRange_iff, union] at *
  omega

theorem containsRange_antisymm (first : a.containsRange b = true) (second : b.containsRange a = true) : a = b := by
  rw [containsRange_iff] at first second
  cases a; cases b
  simp only at first second
  congr <;> omega

/-- A range that grows to cover another one, if there is one already. -/
def widen (range : Option (Range Int)) (area : Range Int) : Option (Range Int) :=
  some ((range.map (·.union area)).getD area)

/-- The smallest range that covers some ranges; none if there are none. -/
def hull? (areas : List (Range Int)) : Option (Range Int) := areas.foldl widen none

variable {areas others : List (Range Int)} {hull outer : Range Int}

theorem covers_widen (waiting : Option (Range Int)) (area : Range Int) :
    (∀ range, widen waiting area = some range → outer.containsRange range = true) ↔
      (∀ range, waiting = some range → outer.containsRange range = true) ∧ outer.containsRange area = true := by
  cases waiting with
  | none => simp [widen]
  | some earlier =>
    simp only [widen, Option.map_some, Option.getD_some, Option.some.injEq, forall_eq']
    constructor
    · intro covers
      exact ⟨containsRange_trans covers containsRange_union_left, containsRange_trans covers containsRange_union_right⟩
    · intro ⟨first, second⟩
      exact containsRange_union first second

theorem covers_foldl_widen (waiting : Option (Range Int)) :
    (∀ range, areas.foldl widen waiting = some range → outer.containsRange range = true) ↔
      (∀ range, waiting = some range → outer.containsRange range = true) ∧
        ∀ area ∈ areas, outer.containsRange area = true := by
  induction areas generalizing waiting with
  | nil => simp
  | cons area rest ih => rw [List.foldl_cons, ih, covers_widen, List.forall_mem_cons, and_assoc]

/-- The hull is covered by what covers all the ranges, and by nothing else. -/
theorem containsRange_hull? (found : hull? areas = some hull) :
    outer.containsRange hull = true ↔ ∀ area ∈ areas, outer.containsRange area = true := by
  have covers : (∀ range, hull? areas = some range → outer.containsRange range = true) ↔ _ := covers_foldl_widen none
  simpa [found] using covers

theorem hull?_eq_none_iff : hull? areas = none ↔ areas = [] := by
  have grown (rest : List (Range Int)) (range : Range Int) : rest.foldl widen (some range) ≠ none := by
    induction rest generalizing range with
    | nil => simp
    | cons area rest ih => exact ih _
  cases areas with
  | nil => simp [hull?]
  | cons area rest => exact iff_of_false (grown rest area) (List.cons_ne_nil _ _)

/-- In whatever order, and however often, the ranges are told, their hull is the same. -/
theorem hull?_congr (same : ∀ area, area ∈ areas ↔ area ∈ others) : hull? areas = hull? others := by
  cases first : hull? areas with
  | none =>
    rw [hull?_eq_none_iff] at first
    refine (hull?_eq_none_iff.mpr (List.eq_nil_iff_forall_not_mem.mpr fun area member => ?_)).symm
    rw [← same, first] at member
    cases member
  | some hull =>
    cases second : hull? others with
    | none =>
      rw [hull?_eq_none_iff] at second
      have empty : areas = [] := List.eq_nil_iff_forall_not_mem.mpr fun area member => by
        rw [same, second] at member
        cases member
      rw [hull?_eq_none_iff.mpr empty] at first
      cases first
    | some other =>
      have forth := (containsRange_hull? first).mp (containsRange_refl hull)
      have back := (containsRange_hull? second).mp (containsRange_refl other)
      refine congrArg some (containsRange_antisymm ?_ ?_)
      · exact (containsRange_hull? second).mpr fun area member => forth area ((same area).mpr member)
      · exact (containsRange_hull? first).mpr fun area member => back area ((same area).mp member)

end Range
end Spreadsheet
