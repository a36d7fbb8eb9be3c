import Spreadsheet.Proofs.Feed.Parallel
import Spreadsheet.Proofs.Fill.Transposed
import Spreadsheet.Proofs.Sheet.Carried
import Spreadsheet.Proofs.Sheet.SmartFill

/-! A sheet and the same with rows and columns exchanged. What is written, merged and removed at places of the one is so
at the transposed places of the other, and the two stay transposes of each other. -/
namespace Spreadsheet

/-- The region among rows and columns exchanged. -/
def MergeRegion.transpose (region : MergeRegion) : MergeRegion where
  given := region.given.transpose
  cells := region.cells.transpose
  named := Range.toInt?_transpose.mpr region.named

namespace MergeRegion
variable {region other : MergeRegion}

theorem overlaps_transpose (range : Range Number) : region.transpose.overlaps range.transpose = region.overlaps range := by
  unfold overlaps
  cases named : range.toInt? with
  | none =>
    rw [Range.toInt?_transpose_eq_none.mpr named]
    exact Range.overlaps_transpose
  | some cells =>
    rw [Range.toInt?_transpose.mpr named]
    exact Range.overlaps_transpose

theorem isInside_transpose (range : Range Number) : region.transpose.isInside range.transpose = region.isInside range := by
  unfold isInside
  cases named : range.toInt? with
  | none =>
    rw [Range.toInt?_transpose_eq_none.mpr named]
    exact Range.containsRange_transpose
  | some cells =>
    rw [Range.toInt?_transpose.mpr named]
    exact Range.containsRange_transpose

theorem ofRange_transpose {range : Range Number} :
    ofRange range.transpose = .ok region.transpose ↔ ofRange range = .ok region := by
  rw [ofRange_ok_iff, ofRange_ok_iff]
  simp only [transpose, Range.transpose_inj, Range.checked_transpose, Range.size_transpose]

end MergeRegion

namespace MergeRegistry
variable {area : Range Int} {registry mirror : MergeRegistry} {region : MergeRegion}

/-- The regions of one registry are those of another, transposed and in the same order. -/
def Mirrors (registry mirror : MergeRegistry) : Prop := mirror.regions = registry.regions.map MergeRegion.transpose

theorem Mirrors.inRange (mirrors : Mirrors registry mirror) (range : Range Number) :
    mirror.inRange range.transpose = (registry.inRange range).map MergeRegion.transpose := by
  unfold MergeRegistry.inRange
  rw [mirrors, List.filter_map]
  congr 2
  exact funext fun region => MergeRegion.overlaps_transpose range

theorem Mirrors.inside (mirrors : Mirrors registry mirror) (range : Range Number) :
    mirror.inside range.transpose = (registry.inside range).map MergeRegion.transpose := by
  unfold MergeRegistry.inside
  rw [mirrors.inRange, List.filter_map]
  congr 2
  exact funext fun region => MergeRegion.isInside_transpose range

theorem Mirrors.unmergeInRange (mirrors : Mirrors registry mirror) (range : Range Number) :
    Mirrors (registry.unmergeInRange range).2 (mirror.unmergeInRange range.transpose).2 := by
  unfold Mirrors MergeRegistry.unmergeInRange
  simp only [regions_foldl_remove, mirrors.inRange]
  rw [mirrors, List.filter_map]
  congr 2
  funext region
  simp only [Function.comp_apply, List.all_map]
  congr 1
  funext other
  rw [Function.comp_apply, Bool.eq_iff_iff, bne_iff_ne, bne_iff_ne]
  exact not_congr (Address.transpose_inj (a := region.cells.topLeft) (b := other.cells.topLeft))

theorem Mirrors.add (mirrors : Mirrors registry mirror) (region : MergeRegion) :
    Mirrors (registry.add region) (mirror.add region.transpose) := by
  unfold Mirrors MergeRegistry.add
  rw [mirrors, List.map_append]
  rfl

/-- The same ranges are registered in both. -/
theorem Mirrors.merge_ok_iff (mirrors : Mirrors registry mirror) (sound : Sound area registry)
    (other : Sound area.transpose mirror) {range : Range Number} :
    mirror.merge range.transpose = .ok (region.transpose, mirror.add region.transpose) ↔
      registry.merge range = .ok (region, registry.add region) := by
  have apart : (∀ other ∈ mirror.regions, other.cells.Apart region.transpose.cells) ↔
      ∀ other ∈ registry.regions, other.cells.Apart region.cells := by
    rw [mirrors]
    simp only [List.forall_mem_map]
    exact forall₂_congr fun _ _ => Range.apart_transpose
  rw [other.merge_ok_iff, sound.merge_ok_iff, apart, MergeRegion.ofRange_transpose, and_iff_left rfl, and_iff_left rfl]

/-- A range that is refused in one is refused in the other. -/
theorem Mirrors.merge_error (mirrors : Mirrors registry mirror) (sound : Sound area registry)
    (other : Sound area.transpose mirror) {range : Range Number} {error : SheetError}
    (refused : registry.merge range = .error error) : ∃ error, mirror.merge range.transpose = .error error := by
  cases answer : mirror.merge range.transpose with
  | error error => exact ⟨error, rfl⟩
  | ok made =>
    obtain ⟨region, merged⟩ := made
    obtain ⟨_, _, rfl⟩ := other.merge_ok_iff.mp answer
    have accepted : registry.merge range = .ok (region.transpose, registry.add region.transpose) :=
      (mirrors.merge_ok_iff sound other).mp answer
    rw [refused] at accepted
    cases accepted

/-- The registry with all regions transposed, registered in their order. -/
def transpose (registry : MergeRegistry) : MergeRegistry := (registry.regions.map MergeRegion.transpose).foldl add {}

/-- Regions that are apart from each other and from those there are may be registered. -/
theorem Sound.foldl_add {regions : List MergeRegion} (sound : Sound area registry)
    (positive : 0 ≤ area.top ∧ 0 ≤ area.left) (inside : ∀ region ∈ regions, area.containsRange region.cells = true)
    (shaped : ∀ region ∈ regions, region.cells.Proper ∧ 2 ≤ region.cells.size)
    (apart : (registry.regions ++ regions).Pairwise fun a b => a.cells.Apart b.cells) :
    Sound area (regions.foldl add registry) ∧ (regions.foldl add registry).regions = registry.regions ++ regions := by
  induction regions generalizing registry with
  | nil => exact ⟨sound, (List.append_nil _).symm⟩
  | cons region rest ih =>
    obtain ⟨proper, large⟩ := shaped region List.mem_cons_self
    have within := inside region List.mem_cons_self
    have bounds := Range.containsRange_iff.mp within
    have checked : region.given.checked = .ok region.cells :=
      Range.checked_ok_iff.mpr ⟨region.named, by omega, by omega, proper⟩
    have free : ∀ other ∈ registry.regions, other.cells.Apart region.cells :=
      fun other member => (List.pairwise_append.mp apart).2.2 other member region List.mem_cons_self
    have accepted : registry.merge region.given = .ok (region, registry.add region) :=
      sound.merge_ok_iff.mpr ⟨MergeRegion.ofRange_ok_iff.mpr ⟨rfl, checked, large⟩, free, rfl⟩
    obtain ⟨done, regions⟩ := ih (sound.merge accepted within)
      (fun other member => inside other (List.mem_cons_of_mem _ member))
      (fun other member => shaped other (List.mem_cons_of_mem _ member)) (by simpa [add] using apart)
    exact ⟨done, by simpa [add] using regions⟩

theorem Sound.transpose (sound : Sound area registry) (positive : 0 ≤ area.top ∧ 0 ≤ area.left) :
    Sound area.transpose registry.transpose ∧ Mirrors registry registry.transpose := by
  refine (sound_empty area.transpose).foldl_add positive.symm ?_ ?_ ?_
  · simp only [List.forall_mem_map]
    exact fun region member => Range.containsRange_transpose.trans (sound.inside region member)
  · simp only [List.forall_mem_map]
    exact fun region member => ⟨Range.proper_transpose.mpr (sound.proper region member),
      Range.size_transpose.symm ▸ sound.large region member⟩
  · refine List.pairwise_map.mpr (sound.disjoint.imp fun apart => ?_)
    exact Range.apart_transpose.mpr apart

end MergeRegistry

namespace Sheet
variable {height width : Nat} {sheet mirror : Sheet}

/-- A sheet with rows and columns exchanged: dimensions, contents with their stamps, regions in their order, and what
waits. -/
structure Mirrors (sheet mirror : Sheet) : Prop where
  rows : mirror.rows = sheet.columns
  columns : mirror.columns = sheet.rows
  equality : mirror.equality = sheet.equality
  holding : ∀ cell : Address Int, mirror.grid.holding cell.transpose = sheet.grid.holding cell
  writings : mirror.writings = sheet.writings
  regions : sheet.merges.Mirrors mirror.merges
  openBatches : mirror.openBatches = sheet.openBatches
  pending : mirror.pending = sheet.pending.map Range.transpose
  isDisposed : mirror.isDisposed = sheet.isDisposed

/-- Two sound sheets that are transposes of each other. -/
structure Twins (height width : Nat) (sheet mirror : Sheet) : Prop extends Mirrors sheet mirror where
  sound : sheet.Sound height width
  other : mirror.Sound width height

theorem Mirrors.area (mirrors : sheet.Mirrors mirror) : mirror.area = sheet.area.transpose := by
  simp only [Sheet.area, mirrors.rows, mirrors.columns, Range.transpose]

theorem areaOf_transpose : (areaOf height width).transpose = areaOf width height := rfl

/-- The transposed sheet. -/
def transpose (sheet : Sheet) : Sheet :=
  { sheet with
    rows := sheet.columns
    columns := sheet.rows
    grid := sheet.grid.carried Address.transpose
    merges := sheet.merges.transpose
    pending := sheet.pending.map Range.transpose }

/-- The transposed sheet may be had where there may be as many columns as there are rows. -/
theorem Sound.twins (sound : sheet.Sound height width) (low : height ≤ maxColumns) :
    Twins height width sheet sheet.transpose := by
  have back : Function.Involutive (Address.transpose (α := Int)) := fun _ => rfl
  have positive : 0 ≤ (areaOf height width).top ∧ 0 ≤ (areaOf height width).left := ⟨Int.le_refl 0, Int.le_refl 0⟩
  obtain ⟨merges, regions⟩ := sound.merges.transpose positive
  have bounded : sheet.transpose.Bounded :=
    ⟨Nat.le_trans sound.bounded.columns (by decide), sound.rows_eq.le.trans low⟩
  refine ⟨⟨rfl, rfl, rfl, fun _ => Grid.holding_carried back, rfl, regions, rfl, rfl, rfl⟩, sound, ?_⟩
  refine ⟨sound.columns_eq, sound.rows_eq, bounded, ?_, merges, ?_⟩
  · exact sound.grid.carried back positive.symm fun cell within => Range.contains_transpose.trans within
  · intro range pending
    obtain ⟨range, waits, rfl⟩ := Option.map_eq_some_iff.mp pending
    obtain ⟨opened, proper, within⟩ := sound.waiting range waits
    exact ⟨opened, Range.proper_transpose.mpr proper, Range.containsRange_transpose.trans within⟩

theorem Mirrors.requireLive (mirrors : sheet.Mirrors mirror) :
    Agree (fun _ _ => True) sheet.requireLive mirror.requireLive := by
  unfold Sheet.requireLive
  rw [mirrors.isDisposed]
  cases sheet.isDisposed
  · exact .ok trivial
  · exact .error _ _

theorem agree_checked (range : Range Number) :
    Agree (fun cells others => others = cells.transpose) range.checked range.transpose.checked := by
  have onto (cells : Range Int) : cells.transpose.transpose = cells := rfl
  exact (Agree.of_ok_iff onto fun _ => Range.checked_transpose.symm).mono fun _ _ => And.right

theorem Mirrors.writableRange (mirrors : sheet.Mirrors mirror) (range : Range Number) :
    Agree (fun cells others => sheet.writableRange range = .ok cells ∧ others = cells.transpose)
      (sheet.writableRange range) (mirror.writableRange range.transpose) := by
  have onto (cells : Range Int) : cells.transpose.transpose = cells := rfl
  refine Agree.of_ok_iff onto fun cells => ?_
  rw [writableRange_ok_iff, writableRange_ok_iff, mirrors.isDisposed, mirrors.area, Range.toInt?_transpose,
    Range.proper_transpose, Range.containsRange_transpose]

theorem Mirrors.holds (mirrors : sheet.Mirrors mirror) (range : Range Number) :
    mirror.holds range.transpose = sheet.holds range := by
  unfold Sheet.holds
  cases named : range.toInt? with
  | none =>
    rw [Range.toInt?_transpose_eq_none.mpr named, mirrors.rows, mirrors.columns]
    rw [Bool.eq_iff_iff]
    simp only [Bool.and_eq_true, decide_eq_true_eq]
    simp only [Range.transpose]
    tauto
  | some cells =>
    rw [Range.toInt?_transpose.mpr named, mirrors.area]
    exact Range.containsRange_transpose

theorem Twins.cell? (twins : Twins height width sheet mirror) (cell : Address Int) :
    mirror.grid.cell? cell.transpose = sheet.grid.cell? cell := by
  have populated : mirror.grid.populated.contains cell.transpose = sheet.grid.populated.contains cell := by
    rw [Bool.eq_iff_iff, ← Std.TreeSet.mem_iff_contains, ← Std.TreeSet.mem_iff_contains,
      twins.other.grid.mem_populated, twins.sound.grid.mem_populated, twins.holding]
  rw [Grid.cell?_eq, Grid.cell?_eq, populated, twins.holding]

theorem Twins.batchOpened (twins : Twins height width sheet mirror) :
    Twins height width sheet.batchOpened mirror.batchOpened where
  toMirrors := { twins.toMirrors with openBatches := congrArg (· + 1) twins.openBatches }
  sound := twins.sound.act .openBatch
  other := twins.other.act .openBatch

theorem Twins.batchClosed (twins : Twins height width sheet mirror) :
    Twins height width sheet.batchClosed mirror.batchClosed where
  toMirrors := { twins.toMirrors with
    openBatches := congrArg (· - 1) twins.openBatches
    pending := by
      simp only [Sheet.batchClosed, twins.openBatches, twins.pending]
      split <;> rfl }
  sound := twins.sound.act .closeBatch
  other := twins.other.act .closeBatch

theorem Mirrors.awaiting (mirrors : sheet.Mirrors mirror) (area : Range Int) :
    (sheet.awaiting area).Mirrors (mirror.awaiting area.transpose) := by
  unfold Sheet.awaiting
  by_cases closed : sheet.openBatches = 0
  · rw [if_pos closed, if_pos (mirrors.openBatches.trans closed)]
    exact mirrors
  · rw [if_neg closed, if_neg fun none => closed (mirrors.openBatches.symm.trans none)]
    refine { mirrors with pending := ?_ }
    simp only [mirrors.pending]
    cases sheet.pending <;> rfl

/-- A cell is put in one, and the same cell at the transposed place in the other. -/
theorem Twins.put (twins : Twins height width sheet mirror) {address : Address Int}
    (within : (areaOf height width).contains address = true) (cell : Option Cell) :
    Twins height width (sheet.edited (sheet.putEdit address cell))
      (mirror.edited (mirror.putEdit address.transpose cell)) where
  toMirrors := by
    have written : Mirrors { sheet with grid := (sheet.putEdit address cell).grid, writings := sheet.writings + 1 }
        { mirror with grid := (mirror.putEdit address.transpose cell).grid, writings := mirror.writings + 1 } :=
      { twins.toMirrors with
        -- Both sheets have counted the same writings, so the new contents get the same stamp.
        holding := by
          intro other
          simp only [putEdit, Grid.holding_putCell, twins.holding, twins.writings, Address.transpose_inj]
        writings := congrArg (· + 1) twins.writings }
    exact written.awaiting _
  sound := twins.sound.edited (putEdit_fits (twins.sound.area_eq ▸ within) cell)
  other := by
    refine twins.other.edited (putEdit_fits ?_ cell)
    rw [twins.other.area_eq, ← areaOf_transpose, Range.contains_transpose]
    exact within

/-- Regions that share a cell with a range are removed from one, and the transposed ones from the other. -/
theorem Twins.unmergeInRange (twins : Twins height width sheet mirror) (range : Range Number) :
    Twins height width (sheet.withMerges (sheet.merges.unmergeInRange range).2)
      (mirror.withMerges (mirror.merges.unmergeInRange range.transpose).2) where
  toMirrors := { twins.toMirrors with regions := twins.regions.unmergeInRange range }
  sound := twins.sound.unmergeInRange range
  other := twins.other.unmergeInRange range.transpose

/-- A region is registered in one, and the transposed one in the other. -/
theorem Twins.merged (twins : Twins height width sheet mirror) {range : Range Number} {region : MergeRegion}
    (accepted : sheet.merges.merge range = .ok (region, sheet.merges.add region))
    (within : (areaOf height width).containsRange region.cells = true) :
    Twins height width (sheet.merged region (sheet.merges.add region))
      (mirror.merged region.transpose (mirror.merges.add region.transpose)) where
  toMirrors := { twins.toMirrors with
    holding := by
      intro cell
      simp only [Sheet.merged]
      rw [twins.sound.grid.holding_eraseCovered, twins.other.grid.holding_eraseCovered, twins.holding]
      refine if_congr (and_congr ?_ (not_congr ?_)) rfl rfl
      · exact Bool.eq_iff_iff.mp Range.contains_transpose
      · exact Address.transpose_inj (b := region.cells.topLeft)
    regions := twins.regions.add region }
  sound := twins.sound.act (.merge accepted (twins.sound.area_eq ▸ within))
  other := by
    refine twins.other.act (.merge ((twins.regions.merge_ok_iff twins.sound.merges twins.other.merges).mpr accepted) ?_)
    rw [twins.other.area_eq, ← areaOf_transpose]
    exact Range.containsRange_transpose.trans within

/-- The target of a fill is found from the regions inside its source and from the edge of the sheet. -/
theorem Mirrors.fillTarget (mirrors : sheet.Mirrors mirror) (direction : FillDirection) (source strip : Range Number)
    (wide narrow : Range Int) :
    mirror.fillTarget direction.turned source.transpose strip.transpose wide.transpose narrow.transpose =
      (sheet.fillTarget direction source strip wide narrow).transpose := by
  unfold Sheet.fillTarget
  rw [mirrors.regions.inside, List.isEmpty_map, mirrors.area, FillDirection.farEnd?_transpose]
  by_cases empty : (sheet.merges.inside source).isEmpty = true
  · rw [if_pos empty]
    rfl
  · rw [if_neg empty]
    cases direction.farEnd? sheet.area wide narrow with
    | none => rfl
    | some farEnd => exact FillDirection.endingAt_transpose strip _

/-- The same lines go on in both. -/
theorem Twins.continued (twins : Twins height width sheet mirror) (direction : FillDirection)
    (origin other : Address Number) (wide goal : Range Int) :
    mirror.continued direction.turned other wide.transpose goal.transpose none =
      (sheet.continued direction origin wide goal none).map fun made => (made.1.transpose, made.2) := by
  unfold Sheet.continued
  rw [FillDirection.runs_transpose, FillDirection.runs_transpose, List.zip_map, List.flatMap_map, List.map_flatMap]
  congr 1
  funext ⟨line, places⟩
  have cells : (line.map Address.transpose).map mirror.grid.cell? = line.map sheet.grid.cell? := by
    rw [List.map_map]
    exact List.map_congr_left fun cell _ => twins.cell? cell
  simp only [Prod.map, cells, twins.equality, List.zipIdx_map, List.map_map]
  rfl

end Sheet
end Spreadsheet
