import Spreadsheet.Proofs.Coordinate.Named
import Spreadsheet.Proofs.Coordinate.RowMajor
import Spreadsheet.Proofs.Number.Counts

/-! What the operations on given ranges mean for the cells that they have. Ranges are compared, cut and joined exactly,
however large their coordinates are. To walk a range, to count it and to move it takes sums, and these are exact as long
as they do not leave the whole numbers that have no gaps. -/
namespace Spreadsheet.Range
variable {given other : Range Number} {a b range : Range Int} {address corner : Address Number} {cell place : Address Int}

section named

theorem contains_of_named (named : given.toInt? = some a) (found : address.toInt? = some cell) :
    given.contains address = a.contains cell := by
  obtain ⟨top, left, bottom, right⟩ := toInt?_eq_some_iff.mp named
  obtain ⟨row, column⟩ := Address.toInt?_eq_some_iff.mp found
  simp only [contains, Number.le_iff top row, Number.le_iff row bottom, Number.le_iff left column,
    Number.le_iff column right]

theorem overlaps_of_named (first : given.toInt? = some a) (second : other.toInt? = some b) :
    given.overlaps other = a.overlaps b := by
  obtain ⟨top, left, bottom, right⟩ := toInt?_eq_some_iff.mp first
  obtain ⟨otherTop, otherLeft, otherBottom, otherRight⟩ := toInt?_eq_some_iff.mp second
  simp only [overlaps, Number.lt_iff bottom otherTop, Number.lt_iff otherBottom top, Number.lt_iff right otherLeft,
    Number.lt_iff otherRight left]

theorem toInt?_single (found : address.toInt? = some cell) : (single address).toInt? = some (single cell) := by
  obtain ⟨row, column⟩ := Address.toInt?_eq_some_iff.mp found
  exact toInt?_eq_some_iff.mpr ⟨row, column, row, column⟩

/-- Whole shifts are exact if they lead to whole numbers that have no gaps. -/
theorem toInt?_offset_of_le {rows columns : Number} {down along : Int} (named : given.toInt? = some a)
    (vertical : rows.toInt? = some down) (horizontal : columns.toInt? = some along)
    (near : ∀ coordinate ∈ [a.top + down, a.left + along, a.bottom + down, a.right + along],
      coordinate.natAbs ≤ 2 ^ 53) : (given.offset rows columns).toInt? = some (a.offset down along) := by
  obtain ⟨top, left, bottom, right⟩ := toInt?_eq_some_iff.mp named
  simp only [List.forall_mem_cons] at near
  exact toInt?_eq_some_iff.mpr ⟨Number.toInt?_add_of_le top vertical near.1,
    Number.toInt?_add_of_le left horizontal near.2.1, Number.toInt?_add_of_le bottom vertical near.2.2.1,
    Number.toInt?_add_of_le right horizontal near.2.2.2.1⟩

end named

section sets

/-- A range covers another one if it has all its cells. -/
theorem containsRange_iff_forall (proper : b.Proper) :
    a.containsRange b = true ↔ ∀ cell, b.contains cell = true → a.contains cell = true := by
  constructor
  · exact fun covers cell => contains_trans covers
  · intro all
    have first := all b.topLeft (contains_iff.mpr ⟨Int.le_refl _, proper.1, Int.le_refl _, proper.2⟩)
    have last := all b.bottomRight (contains_iff.mpr ⟨proper.1, Int.le_refl _, proper.2, Int.le_refl _⟩)
    rw [contains_iff] at first last
    exact containsRange_iff.mpr ⟨first.1, last.2.1, first.2.2.1, last.2.2.2⟩

/-- The cells of a range are wanted, and no smaller range has all cells that are wanted. -/
structure Encloses (range : Range Int) (wanted : Address Int → Prop) : Prop where
  has : ∀ cell, wanted cell → range.contains cell = true
  least : ∀ wider : Range Int, (∀ cell, wanted cell → wider.contains cell = true) →
    ∀ cell, range.contains cell = true → wider.contains cell = true

theorem encloses_union (first : a.Proper) (second : b.Proper) :
    (a.union b).Encloses fun cell => a.contains cell = true ∨ b.contains cell = true where
  has cell inside := by
    rcases inside with inside | inside
    · exact contains_trans containsRange_union_left inside
    · exact contains_trans containsRange_union_right inside
  least wider has cell := by
    have left := (containsRange_iff_forall first).mpr fun cell inside => has cell (.inl inside)
    have right := (containsRange_iff_forall second).mpr fun cell inside => has cell (.inr inside)
    exact contains_trans (containsRange_union left right)

theorem contains_single_iff : (single cell).contains place = true ↔ place = cell :=
  ⟨eq_of_contains_single, fun same => same ▸ contains_single⟩

theorem length_span (first last : Int) : (span first last).length = (last - first + 1).toNat := by
  rw [span, List.length_map, List.length_range]

theorem length_cells (range : Range Int) : range.cells.length = range.rows.toNat * range.columns.toNat := by
  simp only [cells, List.length_flatMap, List.length_map, length_span, List.map_const', List.sum_replicate, smul_eq_mul]
  rfl

/-- A proper range has as many cells as its rows and columns have in common. -/
theorem cast_length_cells (proper : range.Proper) : (range.cells.length : Int) = range.rows * range.columns := by
  have rows : 0 ≤ range.rows := Int.add_nonneg (Int.sub_nonneg_of_le proper.1) Int.one_nonneg
  have columns : 0 ≤ range.columns := Int.add_nonneg (Int.sub_nonneg_of_le proper.2) Int.one_nonneg
  rw [length_cells, Int.natCast_mul, Int.toNat_of_nonneg rows, Int.toNat_of_nonneg columns]

end sets

section walk
variable {first last current : Number} {k m : Int}

theorem span_of_lt (past : m < k) : span k m = [] := by
  have nothing : (m - k + 1).toNat = 0 := by omega
  rw [span, nothing]
  rfl

theorem span_of_le (more : k ≤ m) : span k m = k :: span (k + 1) m := by
  have count : (m - k + 1).toNat = (m - (k + 1) + 1).toNat + 1 := by omega
  rw [span, span, count, List.range_succ_eq_map, List.map_cons, List.map_map]
  refine congrArg₂ List.cons (Int.add_zero k) (List.map_congr_left fun step _ => ?_)
  simp only [Function.comp_apply, Nat.cast_succ]
  omega

/-- The loop from a whole number on reaches every whole number up to the last one, and ends there: a step is exact as
long as the last number is one of those that have no gaps. -/
theorem steps_eq (ends : last.toInt? = some m) (near : m < 2 ^ 53) (begins : current.toInt? = some k) (positive : 0 ≤ k)
    (fuel : Nat) (enough : m < k + fuel) :
    steps last fuel current = (span k m).map (Address.walkedTo current) := by
  induction fuel generalizing current k with
  | zero =>
    rw [steps, span_of_lt (by omega)]
    rfl
  | succ fuel ih =>
    rw [steps]
    split
    · rename_i more
      rw [Number.le_iff begins ends] at more
      have next : (current + 1).toInt? = some (k + 1) := Number.toInt?_add_of_le begins Number.toInt?_one (by omega)
      have others (step : Int) (member : step ∈ span (k + 1) m) :
          Address.walkedTo (current + 1) step = Address.walkedTo current step := by
        have within := mem_span.mp member
        have plain : (Number.ofInt step).toInt? = some step := Number.toInt?_ofInt (by omega)
        rw [Address.walkedTo, Address.walkedTo, begins, next, if_neg (show some k ≠ some step by simp; omega)]
        split
        · rename_i same
          exact Number.eq_of_toInt? (next.trans same) plain (by omega)
        · rfl
      rw [ih next (by omega) (by omega), List.map_congr_left others, span_of_le more, List.map_cons, Address.walkedTo,
        if_pos begins]
    · rename_i past
      rw [Number.le_iff begins ends] at past
      rw [span_of_lt (by omega)]
      rfl

theorem steps_stepCount (begins : first.toInt? = some k) (ends : last.toInt? = some m) (positive : 0 ≤ k)
    (order : k ≤ m) (near : m < 2 ^ 53) :
    steps last (stepCount first last) first = (span k m).map (Address.walkedTo first) := by
  have length : (last - first).toInt? = some (m - k) := Number.toInt?_sub ends begins (by omega)
  refine steps_eq ends near begins positive _ ?_
  rw [stepCount, Number.truncate?_of_toInt? length]
  simp only
  omega

/-- A whole number that a walk comes to is that number. -/
theorem toInt?_walkedTo (near : k.natAbs < 2 ^ 53) : (Address.walkedTo first k).toInt? = some k := by
  unfold Address.walkedTo
  split
  · assumption
  · exact Number.toInt?_ofInt near

end walk

/-- The range that is common to two ranges has the cells that both have. -/
private theorem checked_inter (first : given.toInt? = some a) (second : other.toInt? = some b)
    (here : a.contains cell = true) (there : b.contains cell = true) (top : 0 ≤ a.top) (left : 0 ≤ a.left) :
    ∃ cells, Range.checked ⟨max given.top other.top, max given.left other.left, min given.bottom other.bottom,
      min given.right other.right⟩ = .ok cells ∧
      ∀ cell, cells.contains cell = true ↔ a.contains cell = true ∧ b.contains cell = true := by
  obtain ⟨namedTop, namedLeft, namedBottom, namedRight⟩ := toInt?_eq_some_iff.mp first
  obtain ⟨otherTop, otherLeft, otherBottom, otherRight⟩ := toInt?_eq_some_iff.mp second
  rw [contains_iff] at here there
  refine ⟨⟨max a.top b.top, max a.left b.left, min a.bottom b.bottom, min a.right b.right⟩, ?_, fun cell => ?_⟩
  · refine checked_ok_iff.mpr ⟨toInt?_eq_some_iff.mpr ⟨Number.toInt?_max namedTop otherTop,
      Number.toInt?_max namedLeft otherLeft, Number.toInt?_min namedBottom otherBottom,
      Number.toInt?_min namedRight otherRight⟩, ?_, ?_, ?_⟩
    all_goals
      simp only [Proper]
      omega
  · simp only [contains_iff]
    omega

/-- How a given range lies to another one, told by the cells that they have. -/
structure Relates (given other : Range Number) (a b : Range Int) : Prop where
  overlap : given.overlaps other = true ↔ ∃ cell, a.contains cell = true ∧ b.contains cell = true
  apart : given.inter? other = none ↔ ¬∃ cell, a.contains cell = true ∧ b.contains cell = true
  common : ∀ both, given.inter? other = some both → ∃ cells, both.checked = .ok cells ∧
    ∀ cell, cells.contains cell = true ↔ a.contains cell = true ∧ b.contains cell = true
  within : given.containsRange other = true ↔ ∀ cell, b.contains cell = true → a.contains cell = true
  union : ∃ cells, (given.union other).checked = .ok cells ∧
    cells.Encloses fun cell => a.contains cell = true ∨ b.contains cell = true

/-- How a given range and two addresses are told by their cells. -/
structure Reaches (given : Range Number) (range : Range Int) (address corner : Address Number)
    (cell place : Address Int) : Prop where
  member : given.contains address = true ↔ range.contains cell = true
  expand : ∃ cells, (given.expand address).checked = .ok cells ∧
    cells.Encloses fun other => range.contains other = true ∨ other = cell
  corners : ∃ cells, (ofCorners address corner).checked = .ok cells ∧
    cells.Encloses fun other => other = cell ∨ other = place

/-- A loop over a given range lists its cells, each once and row by row, and as many as the range is large. -/
structure Walks (given : Range Number) (range : Range Int) : Prop where
  loop : given.reached = given.addresses
  listed : given.addresses.map Address.toInt? = range.cells.map some
  members : ∀ cell, cell ∈ range.cells ↔ range.contains cell = true
  ordered : range.cells.Pairwise fun a b => Address.rowMajor a b = .lt
  counted : range.cells.length ≤ 2 ^ 53 → given.size.toInt? = some (range.cells.length : Int)

/-- Every cell of a given range goes with it by whole numbers of rows and columns, and it has no others then. -/
structure Shifts (given : Range Number) (range : Range Int) (rows columns : Number) (down along : Int) : Prop where
  named : (given.offset rows columns).toInt? = some (range.offset down along)
  moved : ∀ cell, (range.offset down along).contains cell = true ↔
    range.contains ⟨cell.row - down, cell.column - along⟩ = true

theorem relates (first : given.checked = .ok a) (second : other.checked = .ok b) : given.Relates other a b := by
  obtain ⟨named, top, left, proper⟩ := checked_ok_iff.mp first
  obtain ⟨otherNamed, otherTop, otherLeft, otherProper⟩ := checked_ok_iff.mp second
  have meet : given.overlaps other = true ↔ ∃ cell, a.contains cell = true ∧ b.contains cell = true := by
    rw [overlaps_of_named named otherNamed, overlaps_iff_exists proper otherProper]
  refine ⟨meet, ?apart, ?common, ?within, ?union⟩
  case apart =>
    rw [← meet, inter?]
    split <;> simp_all
  case common =>
    intro both cut
    obtain ⟨overlap, same⟩ := Option.ite_none_right_eq_some.mp cut
    cases same
    obtain ⟨cell, here, there⟩ := meet.mp overlap
    exact checked_inter named otherNamed here there top left
  case within => rw [containsRange_of_named named otherNamed, containsRange_iff_forall otherProper]
  case union =>
    refine ⟨_, checked_ok_iff.mpr ⟨toInt?_union named otherNamed, ?_, ?_, proper_union proper⟩,
      encloses_union proper otherProper⟩
    · exact Int.le_min.mpr ⟨top, otherTop⟩
    · exact Int.le_min.mpr ⟨left, otherLeft⟩

theorem reaches (first : given.checked = .ok range) (second : address.checked = .ok cell)
    (third : corner.checked = .ok place) : given.Reaches range address corner cell place := by
  obtain ⟨named, top, left, proper⟩ := checked_ok_iff.mp first
  obtain ⟨found, row, column⟩ := Address.checked_ok_iff.mp second
  obtain ⟨cornerFound, cornerRow, cornerColumn⟩ := Address.checked_ok_iff.mp third
  refine ⟨by rw [contains_of_named named found], ⟨range.union (single cell), ?_, ?_⟩,
    ⟨(single cell).union (single place), ?_, ?_⟩⟩
  · exact checked_ok_iff.mpr ⟨toInt?_union named (toInt?_single found), Int.le_min.mpr ⟨top, row⟩,
      Int.le_min.mpr ⟨left, column⟩, proper_union proper⟩
  · simpa only [contains_single_iff] using encloses_union proper proper_single
  · exact checked_ok_iff.mpr ⟨toInt?_union (toInt?_single found) (toInt?_single cornerFound),
      Int.le_min.mpr ⟨row, cornerRow⟩, Int.le_min.mpr ⟨column, cornerColumn⟩, proper_union proper_single⟩
  · simpa only [contains_single_iff] using encloses_union (a := single cell) (b := single place) proper_single proper_single

theorem walks (passed : given.checked = .ok range) (nearBottom : range.bottom < 2 ^ 53) (nearRight : range.right < 2 ^ 53) :
    given.Walks range := by
  obtain ⟨named, positiveTop, positiveLeft, rows, columns⟩ := checked_ok_iff.mp passed
  obtain ⟨top, left, bottom, right⟩ := toInt?_eq_some_iff.mp named
  have listing : given.addresses = range.cells.map (·.walkedFrom given.topLeft) := by
    rw [addresses, named]
  refine ⟨?loop, ?listed, fun _ => mem_cells, ?ordered, ?counted⟩
  case loop =>
    rw [listing, reached, steps_stepCount top bottom positiveTop rows nearBottom,
      steps_stepCount left right positiveLeft columns nearRight, cells, List.map_flatMap, List.flatMap_map]
    simp only [List.map_map]
    rfl
  case listed =>
    rw [listing, List.map_map]
    refine List.map_congr_left fun cell member => ?_
    have within := contains_iff.mp (mem_cells.mp member)
    exact Address.toInt?_eq_some_iff.mpr ⟨toInt?_walkedTo (by omega), toInt?_walkedTo (by omega)⟩
  case ordered =>
    simp only [Address.rowMajor_eq_lt_iff]
    exact pairwise_cells range
  case counted =>
    intro few
    have height : given.rows.toInt? = some range.rows :=
      Number.toInt?_add_of_le (Number.toInt?_sub bottom top (by omega)) Number.toInt?_one (by omega)
    have width : given.columns.toInt? = some range.columns :=
      Number.toInt?_add_of_le (Number.toInt?_sub right left (by omega)) Number.toInt?_one (by omega)
    rw [cast_length_cells ⟨rows, columns⟩]
    refine Number.toInt?_mul_of_le height width ?_
    have size := cast_length_cells ⟨rows, columns⟩
    omega

theorem shifts {rows columns : Number} {down along : Int} (named : given.toInt? = some range)
    (vertical : rows.toInt? = some down) (horizontal : columns.toInt? = some along)
    (near : ∀ coordinate ∈ [range.top + down, range.left + along, range.bottom + down, range.right + along],
      coordinate.natAbs ≤ 2 ^ 53) : given.Shifts range rows columns down along := by
  refine ⟨toInt?_offset_of_le named vertical horizontal near, fun cell => ?_⟩
  simp only [contains_iff, offset]
  omega

/-- What is done with ranges and addresses that pass their checks is what is done with their cells. Whatever the
coordinates are, ranges are compared, cut and joined as sets of cells are; they are walked and counted as such if no
coordinate and no count is beyond `2 ^ 53`, and moved if no coordinate of the moved range is. -/
theorem operations_mean_cells (first : given.checked = .ok a) (second : other.checked = .ok b)
    (third : address.checked = .ok cell) (fourth : corner.checked = .ok place) :
    given.Relates other a b ∧ given.Reaches a address corner cell place ∧
      (a.bottom < 2 ^ 53 → a.right < 2 ^ 53 → given.Walks a) ∧
      ∀ (rows columns : Number) (down along : Int), rows.toInt? = some down → columns.toInt? = some along →
        (∀ coordinate ∈ [a.top + down, a.left + along, a.bottom + down, a.right + along], coordinate.natAbs ≤ 2 ^ 53) →
        given.Shifts a rows columns down along :=
  ⟨relates first second, reaches first third fourth, walks first,
    fun _ _ _ _ vertical horizontal near => shifts (checked_ok_iff.mp first).1 vertical horizontal near⟩

/-- The first row and a cell below it. -/
theorem operations_mean_cells_first_row :
    Relates ⟨0, 0, 0, 3⟩ ⟨0, 2, 5, 2⟩ ⟨0, 0, 0, 3⟩ ⟨0, 2, 5, 2⟩ ∧
      Reaches ⟨0, 0, 0, 3⟩ ⟨0, 0, 0, 3⟩ ⟨4, 1⟩ ⟨2, 7⟩ ⟨4, 1⟩ ⟨2, 7⟩ ∧ Walks ⟨0, 0, 0, 3⟩ ⟨0, 0, 0, 3⟩ ∧
      Shifts ⟨0, 0, 0, 3⟩ ⟨0, 0, 0, 3⟩ 1 2 1 2 := by
  have row : checked ⟨0, 0, 0, 3⟩ = .ok ⟨0, 0, 0, 3⟩ :=
    checked_ok_iff.mpr ⟨by decide +kernel, by decide, by decide, by decide, by decide⟩
  have column : checked ⟨0, 2, 5, 2⟩ = .ok ⟨0, 2, 5, 2⟩ :=
    checked_ok_iff.mpr ⟨by decide +kernel, by decide, by decide, by decide, by decide⟩
  have below : Address.checked ⟨4, 1⟩ = .ok ⟨4, 1⟩ :=
    Address.checked_ok_iff.mpr (by decide +kernel)
  have aside : Address.checked ⟨2, 7⟩ = .ok ⟨2, 7⟩ :=
    Address.checked_ok_iff.mpr (by decide +kernel)
  obtain ⟨relates, reaches, walks, shifts⟩ := operations_mean_cells row column below aside
  exact ⟨relates, reaches, walks (by decide) (by decide),
    shifts 1 2 1 2 (by decide +kernel) (by decide +kernel) (by decide)⟩

/-- A column of cells whose count is rounded twice on the way, although the exact count is a number. -/
theorem not_counts_tall :
    checked ⟨1, 0, .ofNat (2 ^ 53 + 2), 0⟩ = .ok ⟨1, 0, 2 ^ 53 + 2, 0⟩ ∧
      (cells ⟨1, 0, 2 ^ 53 + 2, 0⟩).length = 2 ^ 53 + 2 ∧
      (Number.ofNat (2 ^ 53 + 2)).toInt? = some (2 ^ 53 + 2) ∧
      (size ⟨1, 0, .ofNat (2 ^ 53 + 2), 0⟩ : Number).toInt? = some (2 ^ 53) := by
  refine ⟨checked_ok_iff.mpr ⟨by decide +kernel, by decide, by decide, by decide, by decide⟩, ?_, by decide +kernel, by decide +kernel⟩
  rw [length_cells]
  decide +kernel

end Spreadsheet.Range
