import Spreadsheet.Proofs.Number.Order
import Spreadsheet.Proofs.Sheet.Batching

/-! A replica that a subscriber keeps of a sheet, by reading again what it is told of. Whatever act is told, the replica
is right after it, but for cells that wait for a batch to be closed. -/
namespace Spreadsheet

theorem Address.toInt?_toNumber {cell : Address Int} (row : cell.row.natAbs < 2 ^ (53 : Nat))
    (column : cell.column.natAbs < 2 ^ (53 : Nat)) : cell.toNumber.toInt? = some cell :=
  Address.toInt?_eq_some_iff.mpr ⟨Number.toInt?_ofInt row, Number.toInt?_ofInt column⟩

theorem Range.toInt?_toNumber {range : Range Int} (small : range.IsSmall) : range.toNumber.toInt? = some range := by
  obtain ⟨top, left, bottom, right⟩ := small
  have short {k : Int} (less : k.natAbs < 2 ^ 50) : (Number.ofInt k).toInt? = some k :=
    Number.toInt?_ofInt (Nat.lt_trans less (by decide))
  exact Range.toInt?_eq_some_iff.mpr ⟨short top, short left, short bottom, short right⟩

namespace Grid
variable {grid : Grid} {cell : Address Int}

/-- What is found for a cell among those that are read, if the cell is among them or empty. -/
theorem lookup_collect {addresses : List (Address Int)} (listed : cell ∈ addresses ∨ grid.cell? cell = none) :
    ((grid.collect addresses).map fun (address, content) => (address, content.plain)).lookup cell =
      (grid.cell? cell).map Cell.plain := by
  induction addresses with
  | nil =>
    rcases listed with member | empty
    · cases member
    · rw [empty]
      rfl
  | cons address rest ih =>
    have first : grid.collect (address :: rest) =
        ((grid.cell? address).map (address, ·)).toList ++ grid.collect rest := by
      unfold collect
      rw [List.filterMap_cons]
      cases grid.cell? address <;> rfl
    rw [first, List.map_append]
    by_cases same : cell = address
    · subst same
      cases found : grid.cell? cell with
      | none => simpa [found] using ih (.inr found)
      | some content => simp
    · have later : cell ∈ rest ∨ grid.cell? cell = none := by simpa [same] using listed
      have apart : (cell == address) = false := by simp [same]
      cases grid.cell? address with
      | none => exact ih later
      | some content => simpa [List.lookup_cons, apart] using ih later

/-- A cell is recorded, or nothing is read there. -/
theorem mem_populated_or (grid : Grid) (cell : Address Int) : cell ∈ grid.populated ∨ grid.cell? cell = none := by
  rw [cell?_eq, ← Std.TreeSet.contains_iff_mem]
  cases grid.populated.contains cell
  · exact .inr rfl
  · exact .inl rfl

end Grid

/-- What a subscriber keeps of a sheet: the cells, and where the regions are. -/
structure Replica where
  cells : Address Int → Option Cell
  regions : List (Range Int)

namespace Replica

/-- The replica for which all of a sheet is read. -/
def ofSheet (sheet : Sheet) : Replica where
  cells cell := sheet.cells.lookup cell
  regions := sheet.regions.map MergeRegion.cells

/-- Reads one cell again. -/
def readCell (sheet : Sheet) (replica : Replica) (cell : Address Int) : Replica :=
  { replica with cells := fun other => if other = cell then sheet.cell? cell.toNumber else replica.cells other }

/-- Reads a range again. What is not found there is not there any more. -/
def readRange (sheet : Sheet) (replica : Replica) (range : Range Int) : Replica :=
  let found := sheet.cellsIn range.toNumber
  { replica with cells := fun other => if range.contains other = true then found.lookup other else replica.cells other }

/-- What a subscriber does with its replica when it is told of a change. -/
def hear (sheet : Sheet) (replica : Replica) : Change Int → Replica
  | .cellValue cell | .cellStyle cell | .cellFormat cell => replica.readCell sheet cell
  | .range range => replica.readRange sheet range
  | .merge range =>
    let read := replica.readRange sheet range
    { read with regions := read.regions ++ [range] }
  | .unmerge range => { replica with regions := replica.regions.filter (· ≠ range) }
  | .reset => ⟨fun _ => none, []⟩
  | .rowInserted _ | .rowDeleted _ | .columnInserted _ | .columnDeleted _ => replica

/-- The replica is right about all regions, and about all cells but those that are pending. -/
structure Follows (replica : Replica) (sheet : Sheet) : Prop where
  cells : ∀ cell, (∀ range, sheet.pending = some range → range.contains cell = false) →
    replica.cells cell = (ofSheet sheet).cells cell
  regions : ∀ range, range ∈ replica.regions ↔ range ∈ (ofSheet sheet).regions

variable {rows columns : Nat} {sheet after : Sheet} {replica : Replica} {range : Range Int} {cell : Address Int}

theorem ofSheet_cells (sheet : Sheet) (cell : Address Int) :
    (ofSheet sheet).cells cell = (sheet.grid.cell? cell).map Cell.plain :=
  Grid.lookup_collect ((sheet.grid.mem_populated_or cell).imp_left Std.TreeSet.mem_toList.mpr)

theorem follows_ofSheet (sheet : Sheet) : (ofSheet sheet).Follows sheet := ⟨fun _ _ => rfl, fun _ => Iff.rfl⟩

/-- What a cell reads as depends on what is held there. -/
theorem ofSheet_cells_congr (sound : sheet.Sound rows columns) (other : after.Sound rows columns)
    (same : after.grid.holding cell = sheet.grid.holding cell) :
    (ofSheet after).cells cell = (ofSheet sheet).cells cell := by
  have populated : cell ∈ after.grid.populated ↔ cell ∈ sheet.grid.populated := by
    rw [other.grid.mem_populated, sound.grid.mem_populated, same]
  rw [ofSheet_cells, ofSheet_cells, Grid.cell?_eq, Grid.cell?_eq, same]
  simp only [Std.TreeSet.contains_iff_mem, populated]

/-- The range lies in the sheet. -/
theorem cells_readRange (bounded : sheet.Bounded) (within : sheet.area.containsRange range = true)
    (proper : range.Proper) (cell : Address Int) :
    (replica.readRange sheet range).cells cell =
      if range.contains cell = true then (ofSheet sheet).cells cell else replica.cells cell := by
  have listed : sheet.grid.populatedInGiven range.toNumber = sheet.grid.populatedIn range := by
    unfold Grid.populatedInGiven
    rw [Range.toInt?_toNumber (bounded.isSmall within proper)]
  simp only [readRange]
  split
  · rename_i inside
    rw [ofSheet_cells]
    unfold Sheet.cellsIn
    rw [listed]
    refine Grid.lookup_collect ((sheet.grid.mem_populated_or cell).imp_left ?_)
    intro member
    exact Grid.mem_populatedIn.mpr ⟨inside, member⟩
  · rfl

theorem cells_readCell (bounded : sheet.Bounded) (within : sheet.area.contains cell = true) (other : Address Int) :
    (replica.readCell sheet cell).cells other =
      if (Range.single cell).contains other = true then (ofSheet sheet).cells other else replica.cells other := by
  have small := bounded.isSmall (Range.containsRange_single.trans within) Range.proper_single
  have named : cell.toNumber.toInt? = some cell :=
    Address.toInt?_toNumber (Nat.lt_trans small.1 (by decide)) (Nat.lt_trans small.2.1 (by decide))
  have read : sheet.cell? cell.toNumber = (ofSheet sheet).cells cell := by
    unfold Sheet.cell? Sheet.source? Sheet.read
    rw [named, ofSheet_cells, Option.bind_some]
  by_cases same : other = cell
  · subst same
    simp [readCell, Range.contains_single, read]
  · have outside : ¬(Range.single cell).contains other = true := fun inside => same (Range.eq_of_contains_single inside)
    simp [readCell, outside, same]

/-- A change of contents is heard in the area that it tells, and nowhere else. -/
theorem cells_hear {change : Change Int} (bounded : sheet.Bounded) (within : sheet.area.containsRange range = true)
    (proper : range.Proper) (named : change.area? = some range) (cell : Address Int) :
    (replica.hear sheet change).cells cell =
      if range.contains cell = true then (ofSheet sheet).cells cell else replica.cells cell := by
  cases change with
  | cellValue address | cellStyle address | cellFormat address =>
    cases named
    exact cells_readCell bounded (Range.containsRange_single.symm.trans within) cell
  | range range =>
    cases named
    exact cells_readRange bounded within proper cell
  | _ => cases named

theorem regions_hear {change : Change Int} (named : change.area? = some range) :
    (replica.hear sheet change).regions = replica.regions := by
  cases change with
  | cellValue | cellStyle | cellFormat | range => rfl
  | _ => cases named

/-- Regions that go are struck off, one after another. -/
theorem foldl_hear_unmerge (sheet : Sheet) (replica : Replica) (removed : List MergeRegion) :
    let heard := (removed.map (.unmerge ·.cells)).foldl (hear sheet) replica
    heard.cells = replica.cells ∧
      ∀ range, range ∈ heard.regions ↔ range ∈ replica.regions ∧ ∀ region ∈ removed, range ≠ region.cells := by
  induction removed generalizing replica with
  | nil => simp
  | cons region rest ih =>
    obtain ⟨cells, regions⟩ := ih (replica.hear sheet (.unmerge region.cells))
    refine ⟨cells, fun range => (regions range).trans ?_⟩
    simp only [hear, List.mem_filter, decide_eq_true_eq, List.forall_mem_cons, and_assoc]

/-- What waits after an edit in a batch covers its area and what waited before. -/
private theorem outside_of_edited {edit : Edit} (opened : sheet.openBatches ≠ 0)
    (outside : ∀ range, (sheet.edited edit).pending = some range → range.contains cell = false) :
    edit.area.contains cell = false ∧ ∀ range, sheet.pending = some range → range.contains cell = false := by
  have covered {inner outer : Range Int} (covers : outer.containsRange inner = true)
      (without : outer.contains cell = false) : inner.contains cell = false := by
    cases inside : inner.contains cell with
    | false => rfl
    | true => rw [← without, Range.contains_trans covers inside]
  unfold Sheet.edited Sheet.awaiting at outside
  rw [if_neg opened] at outside
  cases waiting : sheet.pending with
  | none => exact ⟨outside edit.area (by simp [waiting]), fun range none => by cases none⟩
  | some earlier =>
    have without := outside (earlier.union edit.area) (by simp [waiting])
    refine ⟨covered Range.containsRange_union_right without, ?_⟩
    intro range same
    cases same
    exact covered Range.containsRange_union_left without

section acts
variable (follows : replica.Follows sheet) (sound : sheet.Sound rows columns)
include follows sound

private theorem follows_edit {edit : Edit} (fits : sheet.Fits edit) :
    ((sheet.prompt edit.change).foldl (hear (sheet.edited edit)) replica).Follows (sheet.edited edit) := by
  have after := sound.edited fits
  have frame (cell : Address Int) (outside : edit.area.contains cell = false) :
      (ofSheet (sheet.edited edit)).cells cell = (ofSheet sheet).cells cell :=
    ofSheet_cells_congr sound after (by rw [Sheet.grid_edited]; exact fits.edited.holding_eq outside)
  have regions : (ofSheet (sheet.edited edit)).regions = (ofSheet sheet).regions := by
    unfold Sheet.edited Sheet.awaiting
    split <;> rfl
  unfold Sheet.prompt
  by_cases closed : sheet.openBatches = 0
  · have idle : ∀ range, sheet.pending ≠ some range := by
      intro range waiting
      have opened := (sound.waiting range waiting).1
      omega
    have within : (sheet.edited edit).area.containsRange edit.area = true := by
      rw [after.area_eq, ← sound.area_eq]
      exact fits.inside
    rw [if_pos closed]
    refine ⟨?_, ?_⟩
    · intro cell _
      refine (cells_hear after.bounded within fits.proper fits.named cell).trans ?_
      split
      · rfl
      · rename_i outside
        rw [frame cell (by simpa using outside)]
        exact follows.cells cell fun range waiting => absurd waiting (idle range)
    · intro range
      rw [List.foldl_cons, List.foldl_nil, regions_hear fits.named, regions]
      exact follows.regions range
  · rw [if_neg closed]
    refine ⟨?_, ?_⟩
    · intro cell outside
      obtain ⟨apart, others⟩ := outside_of_edited closed outside
      rw [frame cell apart]
      exact follows.cells cell others
    · intro range
      rw [regions]
      exact follows.regions range

private theorem follows_closeBatch :
    (sheet.due.foldl (hear sheet.batchClosed) replica).Follows sheet.batchClosed := by
  have after : sheet.batchClosed.Sound rows columns := sound.act .closeBatch
  have same : ofSheet sheet.batchClosed = ofSheet sheet := rfl
  unfold Sheet.due
  by_cases last : sheet.openBatches - 1 = 0
  · rw [if_pos last]
    cases waiting : sheet.pending with
    | none => exact ⟨fun cell _ => follows.cells cell fun range held => by simp [waiting] at held, follows.regions⟩
    | some range =>
      obtain ⟨_, proper, within⟩ := sound.waiting range waiting
      rw [← after.area_eq] at within
      refine ⟨fun cell _ => (cells_readRange after.bounded within proper cell).trans ?_, follows.regions⟩
      split
      · rfl
      · rename_i outside
        rw [same]
        apply follows.cells cell
        intro other held
        rw [waiting, Option.some.injEq] at held
        simpa [← held] using outside
  · rw [if_neg last]
    refine ⟨fun cell outside => follows.cells cell fun range held => outside range ?_, follows.regions⟩
    simpa only [Sheet.batchClosed, if_neg last] using held

private theorem follows_merge {given : Range Number} {region : MergeRegion} {merges : MergeRegistry}
    (accepted : sheet.merges.merge given = .ok (region, merges))
    (within : sheet.area.containsRange region.cells = true) :
    let after := { sheet with merges, grid := sheet.grid.eraseCovered region.cells }
    (replica.hear after (.merge region.cells)).Follows after := by
  intro after
  have sounder : after.Sound rows columns := sound.act (.merge accepted within)
  obtain ⟨passed, added, _⟩ := MergeRegistry.merge_ok accepted
  obtain ⟨_, _, _, proper, _⟩ := MergeRegion.ofRange_ok passed
  refine ⟨fun cell outside => (cells_readRange sounder.bounded within proper cell).trans ?_, ?_⟩
  · split
    · rfl
    · rename_i apart
      have edited : Grid.Edited region.cells sheet.grid (sheet.grid.eraseCovered region.cells) :=
        Grid.edited_eraseCovered
      have untouched := edited.holding_eq (show region.cells.contains cell = false by simpa using apart)
      rw [follows.cells cell outside]
      exact (ofSheet_cells_congr sound sounder untouched).symm
  · intro range
    have listed : (ofSheet after).regions = (ofSheet sheet).regions ++ [region.cells] := by
      simp only [ofSheet, Sheet.regions, after, added, MergeRegistry.add, List.map_append, List.map_singleton]
    rw [listed, List.mem_append, ← follows.regions range]
    exact List.mem_append

private theorem follows_unmerge {removed : List MergeRegion}
    (registered : ∀ region ∈ removed, region ∈ sheet.merges.regions) :
    let after := { sheet with merges := removed.foldl .remove sheet.merges }
    ((removed.map (.unmerge ·.cells)).foldl (hear after) replica).Follows after := by
  intro after
  obtain ⟨cells, regions⟩ := foldl_hear_unmerge after replica removed
  refine ⟨?_, fun range => (regions range).trans ?_⟩
  · intro cell outside
    rw [cells]
    exact follows.cells cell outside
  · rw [follows.regions range]
    simp only [ofSheet, Sheet.regions, after, List.mem_map, MergeRegistry.mem_regions_foldl_remove]
    constructor
    · rintro ⟨⟨region, member, rfl⟩, apart⟩
      refine ⟨region, ⟨member, ?_⟩, rfl⟩
      intro other gone same
      have one := sound.merges.eq_of_topLeft member (registered other gone) same
      exact apart other gone (congrArg MergeRegion.cells one)
    · rintro ⟨region, ⟨member, apart⟩, rfl⟩
      refine ⟨⟨region, member, rfl⟩, ?_⟩
      intro other gone same
      exact apart other gone (congrArg Range.topLeft same)

/-- Whatever act is told, a replica that followed the sheet follows it after the act. -/
theorem Follows.act {events : List (Change Int)} (act : sheet.Act events after) :
    (events.foldl (hear after) replica).Follows after := by
  cases act with
  | edit fits => exact follows_edit follows sound fits
  | openBatch => exact ⟨follows.cells, follows.regions⟩
  | closeBatch => exact follows_closeBatch follows sound
  | merge accepted within => exact follows_merge follows sound accepted within
  | unmerge removed registered => exact follows_unmerge follows sound registered
  | clear => exact ⟨fun cell _ => rfl, fun range => Iff.rfl⟩

end acts

end Replica
end Spreadsheet
