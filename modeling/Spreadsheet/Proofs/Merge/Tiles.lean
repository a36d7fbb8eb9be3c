import Mathlib.Data.List.Forall2
import Spreadsheet.Merge.Tiling
import Spreadsheet.Proofs.Coordinate.Named
import Spreadsheet.Proofs.Number.Whole

/-! The copies that are laid out of ranges. Rounded arithmetic finds the same tiles as whole numbers do, each copy keeps
the shape of its range and stays in the target, and copies of ranges that are apart are apart. -/
namespace Spreadsheet

namespace Range
variable {a b range : Range Int} {rows columns : Int}

theorem proper_offset (proper : range.Proper) : (range.offset rows columns).Proper := by
  unfold Proper at *
  simp only [offset]
  omega

theorem contains_offset {cell : Address Int} :
    (range.offset rows columns).contains cell = range.contains ⟨cell.row - rows, cell.column - columns⟩ := by
  rw [Bool.eq_iff_iff, contains_iff, contains_iff]
  simp only [offset]
  omega

theorem Apart.offset (apart : a.Apart b) (rows columns : Int) :
    (a.offset rows columns).Apart (b.offset rows columns) := by
  intro cell
  rw [contains_offset, contains_offset]
  exact apart _

theorem IsLarge.offset (large : range.IsLarge) (rows columns : Int) : (range.offset rows columns).IsLarge := by
  obtain ⟨first, second, different, here, there⟩ := large
  refine ⟨⟨first.row + rows, first.column + columns⟩, ⟨second.row + rows, second.column + columns⟩, ?_, ?_, ?_⟩
  · intro same
    cases first
    cases second
    simp only [Address.mk.injEq] at same
    exact different (by congr 1 <;> omega)
  · simpa [contains_offset] using here
  · simpa [contains_offset] using there

end Range

namespace Tiling

section whole
variable {length first last start : Int} {fuel : Nat} {source target : Range Int} {ranges : List (Range Int)}
  {copy : Range Int}

/-- Tiles with these starts do not meet. -/
def Spaced (length a b : Int) : Prop := a + length ≤ b ∨ b + length ≤ a

/-- Tiles are laid one after the other, as long as they end in time. -/
theorem mem_forward (positive : 0 < length) {tile : Int} : tile ∈ forward length last fuel start ↔
    ∃ index : Nat, index < fuel ∧ tile = start + index * length ∧ tile + length - 1 ≤ last := by
  induction fuel generalizing start with
  | zero => simp [forward]
  | succ fuel ih =>
    have first : tile ∈ forward length last (fuel + 1) start ↔
        start + length - 1 ≤ last ∧ (tile = start ∨ tile ∈ forward length last fuel (start + length)) := by
      rw [forward]
      split <;> simp [*]
    rw [first, ih]
    constructor
    · rintro ⟨room, rfl | ⟨index, few, rfl, ends⟩⟩
      · exact ⟨0, by omega, by simp, room⟩
      · exact ⟨index + 1, by omega, by push_cast; ring, ends⟩
    · rintro ⟨index, few, rfl, ends⟩
      have beyond : 0 ≤ index * length := Int.mul_nonneg (Int.natCast_nonneg _) (Int.le_of_lt positive)
      refine ⟨by omega, ?_⟩
      cases index with
      | zero => exact .inl (by simp)
      | succ index => exact .inr ⟨index, by omega, by push_cast; ring, ends⟩

theorem le_of_mem_forward (positive : 0 < length) {tile : Int} (member : tile ∈ forward length last fuel start) :
    start ≤ tile := by
  obtain ⟨index, _, rfl, _⟩ := (mem_forward positive).mp member
  have beyond : 0 ≤ index * length := Int.mul_nonneg (Int.natCast_nonneg _) (Int.le_of_lt positive)
  omega

theorem pairwise_forward (positive : 0 < length) : (forward length last fuel start).Pairwise (Spaced length) := by
  induction fuel generalizing start with
  | zero => exact .nil
  | succ fuel ih =>
    rw [forward]
    split
    · refine .cons ?_ ih
      intro tile member
      exact .inl (le_of_mem_forward positive member)
    · exact .nil

theorem mem_backward (positive : 0 < length) {tile : Int} : tile ∈ backward length first fuel last ↔
    ∃ index : Nat, index < fuel ∧ tile = last + 1 - (index + 1) * length ∧ first ≤ tile := by
  induction fuel generalizing last with
  | zero => simp [backward]
  | succ fuel ih =>
    have start : tile ∈ backward length first (fuel + 1) last ↔ first ≤ last - length + 1 ∧
        (tile = last - length + 1 ∨ tile ∈ backward length first fuel (last - length)) := by
      rw [backward]
      split <;> simp [*]
    rw [start, ih]
    constructor
    · rintro ⟨room, rfl | ⟨index, few, rfl, begins⟩⟩
      · exact ⟨0, by omega, by push_cast; ring, room⟩
      · exact ⟨index + 1, by omega, by push_cast; ring, begins⟩
    · rintro ⟨index, few, rfl, begins⟩
      have beyond : 0 ≤ index * length := Int.mul_nonneg (Int.natCast_nonneg _) (Int.le_of_lt positive)
      rw [Int.add_mul] at begins
      refine ⟨by omega, ?_⟩
      cases index with
      | zero => exact .inl (by push_cast; ring)
      | succ index => exact .inr ⟨index, by omega, by push_cast; ring, by rwa [← Int.add_mul] at begins⟩

theorem le_of_mem_backward (positive : 0 < length) {tile : Int} (member : tile ∈ backward length first fuel last) :
    tile + length - 1 ≤ last := by
  obtain ⟨index, _, rfl, _⟩ := (mem_backward positive).mp member
  have beyond : 0 ≤ index * length := Int.mul_nonneg (Int.natCast_nonneg _) (Int.le_of_lt positive)
  rw [Int.add_mul]
  omega

theorem pairwise_backward (positive : 0 < length) : (backward length first fuel last).Pairwise (Spaced length) := by
  induction fuel generalizing last with
  | zero => exact .nil
  | succ fuel ih =>
    rw [backward]
    split
    · refine .cons ?_ ih
      intro tile member
      have beyond := le_of_mem_backward positive member
      exact .inr (by omega)
    · exact .nil

/-- Where a whole tile starts that is as long as a source: tiles are laid from the end of a target above the source, and
else from the start of the target, as long as they stay inside it. -/
def IsTileStart (source target : Range Int) (start : Int) : Prop :=
  target.top ≤ start ∧ start + source.rows - 1 ≤ target.bottom ∧ ∃ index : Nat,
    start = if target.bottom < source.top then target.bottom + 1 - (index + 1) * source.rows
      else target.top + index * source.rows

/-- With a fuel of more than the rows of the target all whole tiles are laid. -/
theorem mem_starts (proper : source.Proper) (enough : target.rows < fuel) :
    start ∈ starts fuel source target ↔ IsTileStart source target start := by
  have positive : 0 < source.rows := by
    unfold Range.Proper at proper
    simp only [Range.rows]
    omega
  -- A tile has at least one row, so that there are no more of them before a start than rows.
  have few (index : Nat) : (index : Int) ≤ index * source.rows :=
    le_mul_of_one_le_right (Int.natCast_nonneg _) positive
  unfold starts IsTileStart
  split
  · rw [mem_backward positive]
    constructor
    · rintro ⟨index, _, rfl, begins⟩
      refine ⟨begins, ?_, index, rfl⟩
      have beyond := few index
      rw [Int.add_mul]
      omega
    · rintro ⟨begins, ends, index, rfl⟩
      refine ⟨index, ?_, rfl, begins⟩
      have beyond := few index
      rw [Int.add_mul] at begins
      simp only [Range.rows] at *
      omega
  · rw [mem_forward positive]
    constructor
    · rintro ⟨index, _, rfl, ends⟩
      refine ⟨?_, ends, index, rfl⟩
      have beyond := few index
      omega
    · rintro ⟨begins, ends, index, rfl⟩
      refine ⟨index, ?_, rfl, ends⟩
      have beyond := few index
      simp only [Range.rows] at *
      omega

theorem pairwise_starts (proper : source.Proper) :
    (starts fuel source target).Pairwise (Spaced source.rows) := by
  have positive : 0 < source.rows := by
    unfold Range.Proper at proper
    simp only [Range.rows]
    omega
  unfold starts
  split
  · exact pairwise_backward positive
  · exact pairwise_forward positive

/-- A copy is one of the ranges, moved down or up into the target. -/
theorem exists_of_mem_copies (member : copy ∈ copies fuel source target ranges) :
    target.containsRange copy = true ∧ ∃ range ∈ ranges, ∃ shift, copy = range.offset shift 0 := by
  obtain ⟨start, _, laid⟩ := List.mem_flatMap.mp member
  obtain ⟨moved, inside⟩ := List.mem_filter.mp laid
  obtain ⟨range, listed, rfl⟩ := List.mem_map.mp moved
  exact ⟨inside, range, listed, _, rfl⟩

/-- Each whole tile makes one copy of each range, if the target has room for it. -/
theorem mem_copies (proper : source.Proper) (enough : target.rows < fuel) : copy ∈ copies fuel source target ranges ↔
    ∃ range ∈ ranges, ∃ start, IsTileStart source target start ∧ copy = range.offset (start - source.top) 0 ∧
      target.containsRange copy = true := by
  simp only [copies, List.mem_flatMap, List.mem_filter, List.mem_map, mem_starts proper enough]
  constructor
  · rintro ⟨start, tile, ⟨range, listed, rfl⟩, inside⟩
    exact ⟨range, listed, start, tile, rfl, inside⟩
  · rintro ⟨range, listed, start, tile, rfl, inside⟩
    exact ⟨start, tile, ⟨range, listed, rfl⟩, inside⟩

/-- Copies of ranges of the source that are apart are apart: those of one tile as the ranges are, and those of different
tiles by their rows. -/
theorem pairwise_copies (proper : source.Proper) (inside : ∀ range ∈ ranges, source.containsRange range = true)
    (apart : ranges.Pairwise Range.Apart) : (copies fuel source target ranges).Pairwise Range.Apart := by
  unfold copies
  rw [List.pairwise_flatMap]
  refine ⟨fun start _ => .filter _ (.map _ (fun a b split => split.offset _ _) apart), ?_⟩
  refine (pairwise_starts proper).imp fun {a b} spaced => ?_
  intro first laid second other cell ⟨here, there⟩
  obtain ⟨range, listed, rfl⟩ := List.mem_map.mp (List.mem_filter.mp laid).1
  obtain ⟨range', listed', rfl⟩ := List.mem_map.mp (List.mem_filter.mp other).1
  have within := inside range listed
  have within' := inside range' listed'
  simp only [Range.contains_iff, Range.containsRange_iff, Range.offset, Spaced, Range.rows] at *
  omega

end whole

section named

/-- The number is a whole one, not far beyond the coordinates of a sheet. -/
def Near (x : Number) (k : Int) : Prop := x.toInt? = some k ∧ k.natAbs ≤ 2 ^ 51

variable {length first last start : Number} {l f e s : Int}

theorem forall₂_forward (fuel : Nat) (long : Near length l) (positive : 0 < l) (stop : Near last e)
    (start' : Near start s) (short : e < 2 ^ 51) :
    List.Forall₂ Near (forward length last fuel start) (forward l e fuel s) := by
  induction fuel generalizing start s with
  | zero => exact .nil
  | succ fuel ih =>
    have next : (start + length).toInt? = some (s + l) := Number.toInt?_add start'.1 long.1 (by
      have := start'.2
      have := long.2
      omega)
    have reach : (start + length - 1).toInt? = some (s + l - 1) := Number.toInt?_sub next Number.toInt?_one (by
      have := start'.2
      have := long.2
      omega)
    rw [forward, forward]
    simp only [Number.le_iff reach stop.1]
    split
    · refine .cons start' (ih ⟨next, ?_⟩)
      have := start'.2
      omega
    · exact .nil

theorem forall₂_backward (fuel : Nat) (long : Near length l) (positive : 0 < l) (begin' : Near first f)
    (stop : Near last e) (short : -2 ^ 51 < f) :
    List.Forall₂ Near (backward length first fuel last) (backward l f fuel e) := by
  induction fuel generalizing last e with
  | zero => exact .nil
  | succ fuel ih =>
    have bounds := And.intro long.2 stop.2
    have next : (last - length).toInt? = some (e - l) := Number.toInt?_sub stop.1 long.1 (by omega)
    have reach : (last - length + 1).toInt? = some (e - l + 1) := Number.toInt?_add next Number.toInt?_one (by omega)
    rw [backward, backward]
    simp only [Number.le_iff begin'.1 reach]
    split
    · exact .cons ⟨reach, by omega⟩ (ih ⟨next, by omega⟩)
    · exact .nil

variable {source target : Range Number} {wide goal : Range Int} {givens : List (Range Number)}
  {ranges : List (Range Int)}

/-- A given range names a whole one. -/
def Names (given : Range Number) (range : Range Int) : Prop := given.toInt? = some range

theorem near_coordinate {x : Number} {k : Int} (named : x.toInt? = some k) (small : k.natAbs < 2 ^ 50) : Near x k :=
  ⟨named, by omega⟩

theorem forall₂_starts (fuel : Nat) (first : Names source wide) (second : Names target goal) (proper : wide.Proper)
    (small : wide.IsSmall) (short : goal.IsSmall) :
    List.Forall₂ Near (starts fuel source target) (starts fuel wide goal) := by
  obtain ⟨top, _, _, _⟩ := Range.toInt?_eq_some_iff.mp first
  obtain ⟨targetTop, _, targetBottom, _⟩ := Range.toInt?_eq_some_iff.mp second
  have rows := Range.toInt?_rows first small
  unfold Range.Proper at proper
  obtain ⟨smallTop, _, smallBottom, _⟩ := small
  obtain ⟨shortTop, _, shortBottom, _⟩ := short
  have positive : 0 < wide.rows := by
    simp only [Range.rows]
    omega
  have length : Near source.rows wide.rows := by
    refine ⟨rows, ?_⟩
    simp only [Range.rows]
    omega
  have stop : Near target.bottom goal.bottom := near_coordinate targetBottom shortBottom
  have begins : Near target.top goal.top := near_coordinate targetTop shortTop
  unfold starts
  simp only [Number.lt_iff targetBottom top]
  split
  · exact forall₂_backward fuel length positive begins stop (by omega)
  · exact forall₂_forward fuel length positive stop begins (by omega)

/-- Copies of given ranges are given copies of what they name. -/
theorem forall₂_copies (fuel : Nat) (first : Names source wide) (second : Names target goal) (proper : wide.Proper)
    (small : wide.IsSmall) (short : goal.IsSmall)
    (named : List.Forall₂ (fun given range => Names given range ∧ range.IsSmall) givens ranges) :
    List.Forall₂ Names (copies fuel source target givens) (copies fuel wide goal ranges) := by
  refine List.rel_flatMap (forall₂_starts fuel first second proper small short) ?_
  intro x k near
  obtain ⟨top, _, _, _⟩ := Range.toInt?_eq_some_iff.mp first
  have bound := And.intro near.2 small.1
  have shift : (x - source.top).toInt? = some (k - wide.top) := Number.toInt?_sub near.1 top (by omega)
  refine List.rel_filter ?_ (List.rel_map ?_ named)
  · intro given range moved
    simp only [Range.containsRange_of_named second moved]
  · intro given range small
    exact Range.toInt?_offset small.1 small.2 shift Number.toInt?_zero (by omega) (by decide)

end named

/-- What is known of the copies that are laid out in a target. -/
structure Laid (target : Range Int) (givens : List (Range Number)) (copies : List (Range Int)) : Prop where
  named : List.Forall₂ Names givens copies
  inside : ∀ copy ∈ copies, target.containsRange copy = true
  proper : ∀ copy ∈ copies, copy.Proper
  large : ∀ copy ∈ copies, copy.IsLarge
  apart : copies.Pairwise Range.Apart

theorem Laid.exists_named {target : Range Int} {givens : List (Range Number)} {copies : List (Range Int)}
    (laid : Laid target givens copies) {given : Range Number} (listed : given ∈ givens) :
    ∃ copy ∈ copies, Names given copy := by
  obtain ⟨index, small, rfl⟩ := List.getElem_of_mem listed
  have short : index < copies.length := laid.named.length_eq ▸ small
  exact ⟨copies[index], List.getElem_mem short, laid.named.get small short⟩

theorem Laid.oriented {target : Range Int} {givens : List (Range Number)} {copies : List (Range Int)}
    (laid : Laid target givens copies) (vertical : Bool) :
    Laid (target.oriented vertical) (givens.map (·.oriented vertical)) (copies.map (·.oriented vertical)) where
  named := by
    refine List.rel_map ?_ laid.named
    intro given range same
    exact Range.toInt?_oriented same vertical
  inside := List.forall_mem_map.mpr fun copy member => (Range.containsRange_oriented vertical).trans (laid.inside copy member)
  proper := List.forall_mem_map.mpr fun copy member => (Range.proper_oriented vertical).mpr (laid.proper copy member)
  large := List.forall_mem_map.mpr fun copy member => (laid.large copy member).oriented vertical
  apart := List.pairwise_map.mpr (laid.apart.imp fun split => split.oriented vertical)

/-- Copies of ranges of a source are laid out down or up the target. -/
theorem laid_copies {source target : Range Number} {wide goal : Range Int} {givens : List (Range Number)}
    {ranges : List (Range Int)} (fuel : Nat) (first : Names source wide) (second : Names target goal) (proper : wide.Proper)
    (small : wide.IsSmall) (short : goal.IsSmall)
    (named : List.Forall₂ (fun given range => Names given range ∧ range.IsSmall) givens ranges)
    (inside : ∀ range ∈ ranges, wide.containsRange range = true) (shaped : ∀ range ∈ ranges, range.Proper ∧ range.IsLarge)
    (apart : ranges.Pairwise Range.Apart) : Laid goal (copies fuel source target givens) (copies fuel wide goal ranges) where
  named := forall₂_copies fuel first second proper small short named
  inside copy member := (exists_of_mem_copies member).1
  proper copy member := by
    obtain ⟨_, range, listed, shift, rfl⟩ := exists_of_mem_copies member
    exact Range.proper_offset (shaped range listed).1
  large copy member := by
    obtain ⟨_, range, listed, shift, rfl⟩ := exists_of_mem_copies member
    exact (shaped range listed).2.offset _ _
  apart := pairwise_copies proper inside apart

/-- A copy that a whole tile of a source makes of a range, down or up the target or along it. -/
def IsReplica (source target : Range Int) (vertical : Bool) (range copy : Range Int) : Prop :=
  ∃ start, IsTileStart (source.oriented vertical) (target.oriented vertical) start ∧
    copy = (if vertical then range.offset (start - source.top) 0 else range.offset 0 (start - source.left)) ∧
    target.containsRange copy = true

/-- Copies that are laid out with the axes exchanged or not are copies along the axis. -/
theorem mem_replicas {source target : Range Int} {ranges : List (Range Int)} {copy : Range Int} {fuel : Nat}
    {vertical : Bool} (proper : source.Proper) (enough : (target.oriented vertical).rows < fuel) :
    copy ∈ (copies fuel (source.oriented vertical) (target.oriented vertical)
        (ranges.map (·.oriented vertical))).map (·.oriented vertical) ↔
      ∃ range ∈ ranges, IsReplica source target vertical range copy := by
  have moved (range : Range Int) (start : Int) :
      ((range.oriented vertical).offset (start - (source.oriented vertical).top) 0).oriented vertical =
        if vertical then range.offset (start - source.top) 0 else range.offset 0 (start - source.left) := by
    cases vertical <;> rfl
  simp only [List.mem_map, mem_copies ((Range.proper_oriented vertical).mpr proper) enough]
  constructor
  · rintro ⟨_, ⟨_, ⟨range, listed, rfl⟩, start, tile, rfl, inside⟩, rfl⟩
    refine ⟨range, listed, start, tile, moved range start, ?_⟩
    rwa [← Range.containsRange_oriented vertical, Range.oriented_oriented]
  · rintro ⟨range, listed, start, tile, same, inside⟩
    refine ⟨_, ⟨_, ⟨range, listed, rfl⟩, start, tile, rfl, ?_⟩, (moved range start).trans same.symm⟩
    rwa [← Range.containsRange_oriented vertical, Range.oriented_oriented, moved, ← same]

/-- Copies of regions inside a source are laid out in the target side by side, one for each whole tile that has room
for it. -/
theorem exists_laid {source target : Range Number} {wide goal : Range Int} {regions : List MergeRegion}
    (first : Names source wide) (second : Names target goal) (proper : wide.Proper) (small : wide.IsSmall)
    (short : goal.IsSmall) (vertical : Bool) (inside : ∀ region ∈ regions, wide.containsRange region.cells = true)
    (shaped : ∀ region ∈ regions, region.cells.Proper ∧ region.cells.IsLarge)
    (apart : regions.Pairwise fun a b => a.cells.Apart b.cells) :
    ∃ copies, Laid goal (replicas source target vertical (regions.map MergeRegion.given)) copies ∧
      ∀ copy, copy ∈ copies ↔ ∃ region ∈ regions, IsReplica wide goal vertical region.cells copy := by
  let turned := (regions.map MergeRegion.cells).map (·.oriented vertical)
  have named : List.Forall₂ (fun given range => Names given range ∧ range.IsSmall)
      ((regions.map MergeRegion.given).map (·.oriented vertical)) turned := by
    simp only [turned, List.map_map, List.forall₂_map_left_iff, List.forall₂_map_right_iff, List.forall₂_same]
    intro region listed
    refine ⟨Range.toInt?_oriented region.named vertical, (Range.isSmall_oriented _).mpr ?_⟩
    exact small.of_containsRange (inside region listed) (shaped region listed).1
  have turn := Range.toInt?_oriented second vertical
  have rows := Number.truncate?_of_toInt? (Range.toInt?_rows turn ((Range.isSmall_oriented _).mpr short))
  have laid := laid_copies (((target.oriented vertical).rows.truncate?.getD 0).toNat + 1)
    (Range.toInt?_oriented first vertical) turn ((Range.proper_oriented _).mpr proper)
    ((Range.isSmall_oriented _).mpr small) ((Range.isSmall_oriented _).mpr short) named ?_ ?_ ?_
  · have back := laid.oriented vertical
    rw [Range.oriented_oriented] at back
    refine ⟨_, back, fun copy => ?_⟩
    rw [mem_replicas proper (by rw [rows, Option.getD_some]; omega)]
    simp only [List.mem_map, exists_exists_and_eq_and]
  · exact List.forall_mem_map.mpr (List.forall_mem_map.mpr fun region listed =>
      (Range.containsRange_oriented vertical).trans (inside region listed))
  · exact List.forall_mem_map.mpr (List.forall_mem_map.mpr fun region listed =>
      ⟨(Range.proper_oriented vertical).mpr (shaped region listed).1, (shaped region listed).2.oriented vertical⟩)
  · exact List.pairwise_map.mpr (List.pairwise_map.mpr (apart.imp fun split => split.oriented vertical))

end Tiling
end Spreadsheet
