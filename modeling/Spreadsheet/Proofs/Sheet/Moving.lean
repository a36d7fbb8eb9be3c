import Spreadsheet.Proofs.Number.Sums
import Spreadsheet.Proofs.Sheet.Registering
import Spreadsheet.Sheet.Host

/-! Regions inside a range move along with its first cell. All of them are taken away before the first one is placed anew,
so that a region pushes only those out of its way that do not move, and never one that has been placed before it. -/
namespace Spreadsheet

/-- Two filters of lists that are related where they let something pass. -/
private theorem forall₂_filter {α β : Type} {p : α → Bool} {q : β → Bool} {r : α → β → Prop} {first : List α}
    {second : List β} (related : List.Forall₂ (fun a b => p a = q b ∧ (p a = true → r a b)) first second) :
    List.Forall₂ r (first.filter p) (second.filter q) := by
  induction related with
  | nil => exact .nil
  | @cons a b first second both _ ih =>
    obtain ⟨same, holds⟩ := both
    cases passes : p a with
    | false => simpa [passes, ← same] using ih
    | true => simpa [passes, ← same] using ⟨holds passes, ih⟩

namespace MergeRegistry
variable {area : Range Int} {registry : MergeRegistry}

/-- The regions that are apart from a range are left, in their order. -/
theorem Sound.regions_unmergeInRange {range : Range Number} {cells : Range Int} (sound : Sound area registry)
    (named : range.toInt? = some cells) (proper : cells.Proper) :
    (registry.unmergeInRange range).2.regions = registry.regions.filter (!·.cells.overlaps cells) := by
  unfold unmergeInRange
  rw [regions_foldl_remove]
  refine List.filter_congr fun region listed => ?_
  have kept := sound.mem_unmergeInRange named proper |>.trans (and_iff_right listed)
  rw [unmergeInRange, regions_foldl_remove, List.mem_filter, and_iff_right listed] at kept
  rw [Bool.eq_iff_iff, kept, Bool.not_eq_true', Range.overlaps_eq_false_iff (sound.proper region listed) proper]

theorem Sound.inside_eq {source : Range Number} {wide : Range Int} (sound : Sound area registry)
    (named : source.toInt? = some wide) :
    registry.inside source = registry.regions.filter (wide.containsRange ·.cells) := by
  unfold MergeRegistry.inside inRange
  rw [List.filter_filter]
  refine List.filter_congr fun region listed => ?_
  have within := sound.mem_inside named |>.trans (and_iff_right listed)
  rw [MergeRegistry.inside, inRange, List.filter_filter, List.mem_filter, and_iff_right listed] at within
  rw [Bool.eq_iff_iff, within]

/-- Without the regions inside a range the others are left, in their order. -/
theorem Sound.regions_remove_inside {source : Range Number} {wide : Range Int} (sound : Sound area registry)
    (named : source.toInt? = some wide) :
    ((registry.inside source).foldl MergeRegistry.remove registry).regions =
      registry.regions.filter (!wide.containsRange ·.cells) := by
  rw [regions_foldl_remove]
  refine List.filter_congr fun region listed => ?_
  rw [Bool.eq_iff_iff, Bool.not_eq_true', List.all_eq_true]
  simp only [bne_iff_ne, ne_eq, sound.mem_inside named]
  constructor
  · intro differs
    by_contra within
    exact differs region ⟨listed, by simpa using within⟩ rfl
  · rintro outside other ⟨registered, within⟩ same
    rw [sound.eq_of_topLeft listed registered same, within] at outside
    cases outside

end MergeRegistry

namespace Sheet
variable {rows columns : Nat} {start sheet : Sheet} {placed : List MergeRegion} {region : MergeRegion}

/-- A range that ends beyond the last row or column is not in the sheet, whatever numbers it is given by. -/
theorem Bounded.holds_eq_false (bounded : sheet.Bounded) {range : Range Number}
    (beyond : ¬range.bottom < .ofNat sheet.rows ∨ ¬range.right < .ofNat sheet.columns) : sheet.holds range = false := by
  unfold holds
  cases named : range.toInt? with
  | none => simpa [or_iff_not_imp_left] using fun _ _ => beyond
  | some cells =>
    obtain ⟨_, _, bottom, right⟩ := Range.toInt?_eq_some_iff.mp named
    have rows : sheet.rows < 2 ^ 53 := Nat.lt_of_le_of_lt bounded.rows (by decide)
    have columns : sheet.columns < 2 ^ 53 := Nat.lt_of_le_of_lt bounded.columns (by decide)
    rw [Number.lt_iff bottom (Number.toInt?_ofNat rows), Number.lt_iff right (Number.toInt?_ofNat columns)] at beyond
    rw [← Bool.not_eq_true, Range.containsRange_iff]
    simp only [area]
    omega

/-- A region inside a range that moves along with it arrives in the sheet if it has room there. Where it arrives is exact
then; a move beyond the sheet may be rounded, but does not lead back into it. -/
theorem Sound.holds_moved (sound : sheet.Sound rows columns) {source : Range Number} {destination : Address Number}
    {wide : Range Int} {cell : Address Int} (accepted : source.checked = .ok wide)
    (arrives : destination.toInt? = some cell) (row : -2 ^ 50 < cell.row) (column : -2 ^ 50 < cell.column)
    (within : (areaOf rows columns).containsRange region.cells = true) (proper : region.cells.Proper)
    (inside : wide.containsRange region.cells = true) :
    sheet.holds (region.given.moved source.topLeft destination) =
        (areaOf rows columns).containsRange (region.cells.offset (cell.row - wide.top) (cell.column - wide.left)) ∧
      (sheet.holds (region.given.moved source.topLeft destination) = true →
        (region.given.moved source.topLeft destination).toInt? =
          some (region.cells.offset (cell.row - wide.top) (cell.column - wide.left))) := by
  obtain ⟨named, top, left, _⟩ := Range.checked_ok_iff.mp accepted
  obtain ⟨sourceTop, sourceLeft, _⟩ := Range.toInt?_eq_some_iff.mp named
  rw [← sound.area_eq] at within ⊢
  have small := sound.bounded.isSmall within proper
  have rows := sound.bounded.rows
  have columns := sound.bounded.columns
  simp only [Range.containsRange_iff, area, maxRows, maxColumns, Range.Proper] at within inside proper rows columns
  by_cases near : (Range.single cell).IsSmall
  · have first : (Range.single wide.topLeft).IsSmall := by
      simp only [Range.IsSmall, Range.single, Range.topLeft]
      omega
    have begins : source.topLeft.toInt? = some wide.topLeft := Address.toInt?_eq_some_iff.mpr ⟨sourceTop, sourceLeft⟩
    have moved := Range.toInt?_moved_along region.named small begins arrives first near
    exact ⟨by rw [holds, moved]; rfl, fun _ => moved⟩
  · obtain ⟨givenTop, givenLeft, givenBottom, givenRight⟩ := Range.toInt?_eq_some_iff.mp region.named
    obtain ⟨toRow, toColumn⟩ := Address.toInt?_eq_some_iff.mp arrives
    have far : 2 ^ 50 ≤ cell.row ∨ 2 ^ 50 ≤ cell.column := by
      simp only [Range.IsSmall, Range.single] at near
      omega
    have gone : sheet.holds (region.given.moved source.topLeft destination) = false := by
      refine sound.bounded.holds_eq_false (far.imp (fun far => ?_) fun far => ?_)
      · exact Number.not_add_sub_lt givenBottom toRow sourceTop (Number.toInt?_ofNat (by omega)) (by omega) (by omega)
          (by omega)
      · exact Number.not_add_sub_lt givenRight toColumn sourceLeft (Number.toInt?_ofNat (by omega)) (by omega)
          (by omega) (by omega)
    refine ⟨?_, fun held => by simp [gone] at held⟩
    rw [gone, eq_comm, ← Bool.not_eq_true, Range.containsRange_iff]
    simp only [area, Range.offset]
    omega

/-- A sheet that has given way to regions: what shared a cell with one of them is gone. -/
structure Yields (rows columns : Nat) (start : Sheet) (placed : List MergeRegion) (cleared : Sheet) : Prop where
  sound : cleared.Sound rows columns
  live : cleared.isDisposed = start.isDisposed
  regions : cleared.regions = start.regions.filter fun region => placed.all (!region.cells.overlaps ·.cells)
  contents : ∀ cell, cleared.contents cell = start.contents cell

theorem yields_none (sound : start.Sound rows columns) : Yields rows columns start [] start where
  sound := sound
  live := rfl
  regions := (List.filter_eq_self.mpr fun _ _ => rfl).symm
  contents _ := rfl

section yields
variable {cleared : Sheet} {target : Range Number} {cells : Range Int} (named : target.toInt? = some cells)
  (proper : cells.Proper)
include named proper

/-- It gives way to one region more. -/
theorem Yields.unmergeInRange (yields : Yields rows columns start placed cleared) (same : region.cells = cells) :
    Yields rows columns start (placed ++ [region]) (cleared.withMerges (cleared.merges.unmergeInRange target).2) where
  sound := yields.sound.unmergeInRange target
  live := yields.live
  regions := by
    refine (yields.sound.merges.regions_unmergeInRange named proper).trans ?_
    rw [show cleared.merges.regions = _ from yields.regions, List.filter_filter]
    refine List.filter_congr fun other _ => ?_
    rw [List.all_append, Bool.and_comm, List.all_cons, List.all_nil, Bool.and_true, same]
  contents := yields.contents

/-- Regions that are apart from a range stay where they are when others give way to it. -/
theorem Registers.unmergeInRange (registers : Registers rows columns start placed sheet) (sound : start.Sound rows columns)
    (apart : ∀ region ∈ placed, region.cells.Apart cells) :
    Registers rows columns (start.withMerges (start.merges.unmergeInRange target).2) placed
      (sheet.withMerges (sheet.merges.unmergeInRange target).2) where
  sound := registers.sound.unmergeInRange target
  live := registers.live
  regions := by
    refine (registers.sound.merges.regions_unmergeInRange named proper).trans ?_
    rw [show sheet.merges.regions = _ from registers.regions, List.filter_append]
    refine congrArg₂ _ (sound.merges.regions_unmergeInRange named proper).symm ?_
    refine List.filter_eq_self.mpr fun region member => ?_
    have listed : region ∈ sheet.regions := registers.regions ▸ List.mem_append_right _ member
    rw [Bool.not_eq_true', Range.overlaps_eq_false_iff (registers.sound.merges.proper region listed) proper]
    exact apart region member
  covered := registers.covered
  other := registers.other

end yields

/-- What moving the regions inside a range comes to. Those that would leave the sheet are gone, like those that shared a
cell with one that has moved. -/
structure Moves (before : Sheet) (source : Range Int) (rows columns : Int) (moved : List MergeRegion)
    (after : Sheet) : Prop where
  regions : ∃ kept, after.regions = kept ++ moved ∧ kept.Sublist before.regions ∧
    ∀ region, region ∈ kept ↔ region ∈ before.regions ∧ source.containsRange region.cells = false ∧
      ∀ other ∈ moved, region.cells.Apart other.cells
  cells : moved.map MergeRegion.cells =
    ((before.regions.filter (source.containsRange ·.cells)).map (·.cells.offset rows columns)).filter
      before.area.containsRange
  covered : ∀ cell, IsCovered moved cell → after.contents cell = (before.contents cell).withoutContent
  other : ∀ cell, ¬IsCovered moved cell → after.contents cell = before.contents cell

section moves
variable {source : Range Number} {wide : Range Int} {moved : List MergeRegion}

/-- What gives way to the regions that have moved are those that have not been taken away. -/
theorem Sound.moves (sound : start.Sound rows columns) (named : source.toInt? = some wide) {down along : Int}
    {cleared : Sheet} (yields : Yields rows columns
      (start.withMerges ((start.merges.inside source).foldl MergeRegistry.remove start.merges)) moved cleared)
    (registers : Registers rows columns cleared moved sheet)
    (cells : moved.map MergeRegion.cells = ((start.merges.inside source).map (·.cells.offset down along)).filter
      (areaOf rows columns).containsRange) : start.Moves wide down along moved sheet where
  regions := by
    have left := yields.regions.trans (congrArg (List.filter _) (sound.merges.regions_remove_inside named))
    refine ⟨cleared.regions, registers.regions, left ▸ List.filter_sublist.trans List.filter_sublist, fun region => ?_⟩
    rw [left, List.mem_filter, List.mem_filter, List.all_eq_true, Bool.not_eq_true', and_assoc]
    refine and_congr_right fun listed => and_congr_right fun _ => forall₂_congr fun other member => ?_
    have registered : other ∈ sheet.regions := registers.regions ▸ List.mem_append_right _ member
    rw [Bool.not_eq_true', Range.overlaps_eq_false_iff (sound.merges.proper region listed)
      (registers.sound.merges.proper other registered)]
  cells := by
    rw [cells, sound.area_eq, sound.merges.inside_eq named]
    rfl
  covered cell covered := (registers.covered cell covered).trans (congrArg _ (yields.contents cell))
  other cell free := (registers.other cell free).trans (yields.contents cell)

/-- The regions inside a range that have room where they move to. -/
theorem Sound.forall₂_moved (sound : sheet.Sound rows columns) {destination : Address Number} {cell : Address Int}
    (accepted : source.checked = .ok wide) (arrives : destination.toInt? = some cell) (row : -2 ^ 50 < cell.row)
    (column : -2 ^ 50 < cell.column) :
    List.Forall₂ Tiling.Names
      (((sheet.merges.inside source).map (·.given.moved source.topLeft destination)).filter sheet.holds)
      (((sheet.merges.inside source).map (·.cells.offset (cell.row - wide.top) (cell.column - wide.left))).filter
        (areaOf rows columns).containsRange) := by
  obtain ⟨named, _⟩ := Range.checked_ok_iff.mp accepted
  refine forall₂_filter ?_
  simp only [List.forall₂_map_left_iff, List.forall₂_map_right_iff, List.forall₂_same]
  intro region member
  obtain ⟨registered, inside⟩ := (sound.merges.mem_inside named).mp member
  exact sound.holds_moved accepted arrives row column (sound.merges.inside region registered)
    (sound.merges.proper region registered) inside

end moves

end Sheet

namespace Session
open Run Sheet
variable {rows columns : Nat} {publish : Publisher} {world : SheetWorld}
variable (tells : OnlyTells publish) (reads : world.feed.OnlyRead)
include tells reads

/-- Regions are taken away one after another. -/
theorem succeeds_withdraw (sound : world.state.Sound rows columns) {moving : List MergeRegion}
    (listed : moving.Sublist world.state.merges.regions) :
    Succeeds (withdraw publish moving) world fun _ state =>
      state = world.state.withMerges (moving.foldl MergeRegistry.remove world.state.merges) := by
  have distinct := sound.merges.pairwise_topLeft.sublist listed
  have registered : ∀ region ∈ moving, region ∈ world.state.merges.regions := fun _ member => listed.subset member
  clear listed
  induction moving generalizing world with
  | nil => exact succeeds_pure rfl
  | cons region rest ih =>
    obtain ⟨others, later⟩ := List.pairwise_cons.mp distinct
    have member := registered region List.mem_cons_self
    have removed : (world.state.merges.unmerge region.anchor).2 = world.state.merges.remove region := by
      rw [MergeRegistry.unmerge, sound.merges.at?_anchor member]
    have taken : (takeAway publish region).outcome world = _ := outcome_takeAway region
    rw [removed] at taken
    let next : SheetWorld := { world with state := world.state.withMerges (world.state.merges.remove region) }
    have readsNext : next.feed.OnlyRead := reads
    refine Succeeds.bind (Succeeds.of_outcome taken (tells next _ readsNext)) ?_
    rintro _ _ news rfl
    have left := sound.unmerge region.anchor
    rw [removed] at left
    refine ih reads left later fun other there => ?_
    exact MergeRegistry.mem_regions_remove.mpr
      ⟨registered other (List.mem_cons_of_mem _ there), (others other there).symm⟩

/-- Ranges of the sheet that are apart from each other are placed one after another. Each of them pushes out of its way
what has been there since the start. -/
theorem succeeds_mapM_place (sound : world.state.Sound rows columns) (live : world.state.isDisposed = false)
    {givens : List (Range Number)} {targets : List (Range Int)} (named : List.Forall₂ Tiling.Names givens targets)
    (shaped : ∀ target ∈ targets, target.Proper ∧ target.IsLarge ∧ (areaOf rows columns).containsRange target = true)
    (apart : targets.Pairwise Range.Apart) :
    Succeeds (givens.mapM fun given => do let _ ← unmergeInRange publish given; addMerge publish given) world
      fun placed state => placed.map MergeRegion.cells = targets ∧
        ∃ cleared, Yields rows columns world.state placed cleared ∧ Registers rows columns cleared placed state := by
  let ready (givens : List (Range Number)) (placed : List MergeRegion) (state : Sheet) : Prop :=
    (∃ cleared, Yields rows columns world.state placed cleared ∧ Registers rows columns cleared placed state) ∧
      ∃ rest, targets = placed.map MergeRegion.cells ++ rest ∧ List.Forall₂ Tiling.Names givens rest
  have walk : Succeeds (givens.mapM fun given => do let _ ← unmergeInRange publish given; addMerge publish given) world
      fun placed state => ready [] ([] ++ placed) state := by
    refine succeeds_mapM ?_ givens [] reads
      ⟨⟨world.state, yields_none sound, registers_none sound⟩, targets, rfl, named⟩
    rintro now given givens placed readsNow ⟨⟨cleared, yields, registers⟩, rest, listed, named⟩
    cases named with
    | @cons _ target _ rest first others =>
      obtain ⟨proper, large, within⟩ := shaped target (by simp [listed])
      have split : ∀ region ∈ placed, region.cells.Apart target := by
        intro region member
        rw [listed] at apart
        exact (List.pairwise_append.mp apart).2.2 _ (List.mem_map_of_mem member) target List.mem_cons_self
      have liveNow : now.state.isDisposed = false := (registers.live.trans yields.live).trans live
      refine Succeeds.bind (succeeds_unmergeInRange tells readsNow liveNow given) ?_
      rintro _ _ news rfl
      let next : SheetWorld :=
        { now with
          state := now.state.withMerges (now.state.merges.unmergeInRange given).2
          trace := news ++ now.trace }
      have readsNext : next.feed.OnlyRead := readsNow
      have begins : Registers rows columns _ placed next.state :=
        registers.unmergeInRange first proper yields.sound split
      have inside := Range.containsRange_iff.mp within
      have admits : next.state.merges.Admits target := ⟨inside.1, inside.2.2.1, proper, large, fun region member =>
        ((registers.sound.merges.mem_unmergeInRange first proper).mp member).2⟩
      refine (succeeds_addMerge tells readsNext begins first admits within).mono ?_
      rintro region state ⟨_, same, more⟩
      exact ⟨⟨_, yields.unmergeInRange first proper same, more⟩, rest, by simp [listed, same], others⟩
  refine walk.mono ?_
  rintro placed state ⟨done, rest, listed, ends⟩
  cases ends
  exact ⟨by simpa using listed.symm, done⟩

/-- Regions inside a range of whole coordinates are moved, wherever they are to go. -/
theorem succeeds_moveMerges (sound : world.state.Sound rows columns) (live : world.state.isDisposed = false)
    {source : Range Number} {destination : Address Number} {wide : Range Int} {cell : Address Int}
    (accepted : source.checked = .ok wide) (arrives : destination.toInt? = some cell) (row : -2 ^ 50 < cell.row)
    (column : -2 ^ 50 < cell.column) :
    Succeeds (moveMerges publish source destination) world fun moved state =>
      world.state.Moves wide (cell.row - wide.top) (cell.column - wide.left) moved state := by
  refine Succeeds.of_outcome ((outcome_check_ok (Sheet.requireLive_ok live)).trans (outcome_bind_ok outcome_sheet)) ?_
  obtain ⟨named, _⟩ := Range.checked_ok_iff.mp accepted
  obtain ⟨_, wrote⟩ := A1.exists_ofRange accepted
  have listed := world.state.merges.inside_sublist source
  refine Succeeds.bind (succeeds_withdraw tells reads sound listed) ?_
  rintro _ _ news rfl
  refine Succeeds.of_outcome (outcome_bind_ok outcome_sheet) ?_
  let left := world.state.withMerges ((world.state.merges.inside source).foldl MergeRegistry.remove world.state.merges)
  let next : SheetWorld := { world with state := left, trace := news ++ world.trace }
  have readsNext : next.feed.OnlyRead := reads
  have soundLeft : left.Sound rows columns := sound.act (.unmerge _ fun _ member => listed.subset member)
  have apart : ((world.state.merges.inside source).map
      (·.cells.offset (cell.row - wide.top) (cell.column - wide.left))).Pairwise Range.Apart :=
    (sound.merges.disjoint.sublist listed).map _ fun _ _ split => Range.Apart.offset split _ _
  refine Succeeds.bind (succeeds_mapM_place tells readsNext soundLeft live (sound.forall₂_moved accepted arrives row column)
    ?_ (apart.filter _)) ?_
  · intro target member
    obtain ⟨moved, within⟩ := List.mem_filter.mp member
    obtain ⟨region, chosen, rfl⟩ := List.mem_map.mp moved
    have registered := listed.subset chosen
    have proper := sound.merges.proper region registered
    have large := (Range.isLarge_iff proper).mpr (sound.merges.large region registered)
    exact ⟨Range.proper_offset proper, large.offset _ _, within⟩
  · rintro moved state _ ⟨same, cleared, yields, registers⟩
    refine Succeeds.bind (succeeds_lift wrote) ?_
    rintro _ _ _ ⟨_, rfl⟩
    exact succeeds_pure (sound.moves named yields registers same)

end Session

namespace SheetWorld
open Run Session Sheet
variable {world : SheetWorld} {source : Range Number} {destination : Address Number} {wide : Range Int} {cell : Address Int}

/-- Regions are moved to any cell there might be. The move succeeds, also if none of them has room where it goes, and it
answers those that have arrived. -/
theorem Reachable.moveMerges_moves (reachable : Reachable world) (live : world.state.isDisposed = false)
    (reads : world.feed.OnlyRead) (fuel : Nat) (accepted : source.checked = .ok wide)
    (arrives : destination.toInt? = some cell) (row : 0 ≤ cell.row) (column : 0 ≤ cell.column) :
    ∃ moved after news,
      (moveMerges (Run.emit (sheetHost.act fuel) sheetHost.describe) source destination).outcome world =
        (.ok moved, { world with state := after, trace := news ++ world.trace }) ∧
      world.state.Moves wide (cell.row - wide.top) (cell.column - wide.left) moved after := by
  obtain ⟨_, _, sound, _⟩ := reachable.sound
  exact succeeds_moveMerges (Run.onlyTells_emit _ _) reads sound live accepted arrives (by omega) (by omega)

/-- Two regions move by a row and a column over where they have been, and push a third one away; a fourth one leaves the
sheet. -/
theorem moveMerges_moves_with_reader :
    let start : SheetWorld := { state := { rows := 6, columns := 3 } }
    let merged := [⟨0, 0, 1, 0⟩, ⟨2, 0, 3, 1⟩, ⟨2, 2, 3, 2⟩, ⟨4, 2, 5, 2⟩, ⟨5, 0, 5, 1⟩].foldl
      (fun world range => (sheetHost.act 3 (.request (.merge range))).leaves world) start
    let written := (sheetHost.act 3 (.request (.setValue ⟨4, 1⟩ (some (.number 7))))).leaves merged
    let world := (sheetHost.act 3 (.subscribe "reader" (fun _ => []) none)).leaves written
    let move := moveMerges (Run.emit (sheetHost.act 3) sheetHost.describe) ⟨0, 0, 3, 2⟩ ⟨1, 1⟩
    ∃ moved after news,
      move.outcome world = (.ok moved, { world with state := after, trace := news ++ world.trace }) ∧
      world.state.Moves ⟨0, 0, 3, 2⟩ 1 1 moved after ∧
      after.regions.map MergeRegion.cells = [⟨5, 0, 5, 1⟩, ⟨1, 1, 2, 1⟩, ⟨3, 1, 4, 2⟩] ∧ after.value? ⟨4, 1⟩ = none := by
  intro start merged written world move
  have begin : Reachable start :=
    .created (.record [("rowCount", .number 6), ("columnCount", .number 3)]) {} [] rfl rfl
  have reachable : Reachable world := ((((((begin.acted 3 _).acted 3 _).acted 3 _).acted 3 _).acted 3 _).acted 3 _).acted 3 _
  have alone : written.feed.subscriptions = [] := List.isEmpty_iff.mp (by decide +kernel)
  have reads : world.feed.OnlyRead :=
    Feed.OnlyRead.subscribe (Feed.onlyRead_of_nil alone) sheetHost 2 "reader" fun _ => rfl
  have accepted : Range.checked ⟨0, 0, 3, 2⟩ = .ok ⟨0, 0, 3, 2⟩ :=
    Range.checked_ok_iff.mpr ⟨by decide +kernel, by decide, by decide, by decide, by decide⟩
  have arrives : Address.toInt? ⟨1, 1⟩ = some ⟨1, 1⟩ := by decide +kernel
  obtain ⟨moved, after, news, done, moves⟩ :=
    reachable.moveMerges_moves (by decide +kernel) reads 3 accepted arrives (by decide) (by decide)
  have evaluated :
      (move.outcome world).2.state.regions.map MergeRegion.cells = [⟨5, 0, 5, 1⟩, ⟨1, 1, 2, 1⟩, ⟨3, 1, 4, 2⟩] ∧
        (move.outcome world).2.state.value? ⟨4, 1⟩ = none := by
    decide +kernel
  change move.outcome world = _ at done
  generalize move.outcome world = outcome at done evaluated ⊢
  subst done
  exact ⟨moved, after, news, rfl, moves, evaluated⟩

end SheetWorld
end Spreadsheet
