import Spreadsheet.Proofs.Feed.Reading
import Spreadsheet.Proofs.Merge.Tiles
import Spreadsheet.Proofs.Sheet.Contents
import Spreadsheet.Proofs.Sheet.Regions

/-! What requests for merged regions come to if subscribers only read: regions that are laid out in a free area are all
registered, and nothing of the sheet changes but the contents that they cover. -/
namespace Spreadsheet

/-- A range with small whole corners that are not negative can be written in A1 notation. -/
theorem A1.exists_ofRange {range : Range Number} {cells : Range Int} (accepted : range.checked = .ok cells) :
    ∃ text, A1.ofRange range = .ok text := by
  obtain ⟨named, top, left, rows, columns⟩ := Range.checked_ok_iff.mp accepted
  obtain ⟨namedTop, namedLeft, namedBottom, namedRight⟩ := Range.toInt?_eq_some_iff.mp named
  have start : range.topLeft.checked = .ok cells.topLeft :=
    Address.checked_ok_iff.mpr ⟨Address.toInt?_eq_some_iff.mpr ⟨namedTop, namedLeft⟩, top, left⟩
  have stop : range.bottomRight.checked = .ok cells.bottomRight :=
    Address.checked_ok_iff.mpr ⟨Address.toInt?_eq_some_iff.mpr ⟨namedBottom, namedRight⟩, Int.le_trans top rows,
      Int.le_trans left columns⟩
  unfold A1.ofRange
  rw [A1.ofAddress_of_checked start, A1.ofAddress_of_checked stop]
  by_cases single : range.topLeft.same range.bottomRight = true
  · exact ⟨_, if_pos single⟩
  · exact ⟨_, if_neg single⟩

namespace MergeRegistry
variable {area : Range Int} {registry : MergeRegistry} {region : MergeRegion}

/-- A range may be inverted, but then no region is inside it. -/
theorem Sound.mem_inside {source : Range Number} {wide : Range Int} (sound : Sound area registry)
    (named : source.toInt? = some wide) :
    region ∈ registry.inside source ↔ region ∈ registry.regions ∧ wide.containsRange region.cells = true := by
  unfold MergeRegistry.inside inRange
  rw [List.mem_filter, List.mem_filter, and_assoc]
  refine and_congr_right fun member => ?_
  have proper := sound.proper region member
  simp only [MergeRegion.overlaps, MergeRegion.isInside, named, and_iff_right_iff_imp]
  intro within
  unfold Range.Proper at proper
  rw [Range.containsRange_iff] at within
  rw [Range.overlaps_iff]
  omega

theorem inside_sublist (registry : MergeRegistry) (source : Range Number) :
    (registry.inside source).Sublist registry.regions := List.filter_sublist.trans List.filter_sublist

/-- Copies of the regions inside a range are laid out in a target, as many as there is room for. -/
theorem Sound.exists_laid {source target : Range Number} {wide goal : Range Int} (sound : Sound area registry)
    (first : source.checked = .ok wide) (second : target.checked = .ok goal) (small : wide.IsSmall) (short : goal.IsSmall)
    (vertical : Bool) :
    ∃ copies, Tiling.Laid goal
        (Tiling.replicas source target vertical ((registry.inside source).map MergeRegion.given)) copies ∧
      ∀ copy, copy ∈ copies ↔ ∃ region ∈ registry.regions, wide.containsRange region.cells = true ∧
        Tiling.IsReplica wide goal vertical region.cells copy := by
  obtain ⟨named, _, _, proper⟩ := Range.checked_ok_iff.mp first
  obtain ⟨arrives, _, _, _⟩ := Range.checked_ok_iff.mp second
  have laid := Tiling.exists_laid named arrives proper small short vertical ?_ ?_
    (sound.disjoint.sublist (registry.inside_sublist source))
  · simpa only [sound.mem_inside named, and_assoc] using laid
  · exact fun region member => ((sound.mem_inside named).mp member).2
  · intro region member
    obtain ⟨listed, _⟩ := (sound.mem_inside named).mp member
    have shaped := sound.proper region listed
    exact ⟨shaped, (Range.isLarge_iff shaped).mpr (sound.large region listed)⟩

end MergeRegistry

/-- Some region covers the cell, which is not its first one. -/
def IsCovered (regions : List MergeRegion) (cell : Address Int) : Prop :=
  ∃ region ∈ regions, region.cells.contains cell = true ∧ cell ≠ region.cells.topLeft

theorem IsCovered.contains {regions : List MergeRegion} {cell : Address Int} {target : Range Int}
    (covered : IsCovered regions cell) (inside : ∀ region ∈ regions, target.containsRange region.cells = true) :
    target.contains cell = true := by
  obtain ⟨region, member, here, _⟩ := covered
  exact Range.contains_trans (inside region member) here

namespace Sheet
variable {rows columns : Nat} {start sheet : Sheet} {created : List MergeRegion} {region : MergeRegion}

/-- A sheet after regions have been registered: they come last, and their covered cells hold no values. -/
structure Registers (rows columns : Nat) (start : Sheet) (created : List MergeRegion) (sheet : Sheet) : Prop where
  sound : sheet.Sound rows columns
  live : sheet.isDisposed = start.isDisposed
  regions : sheet.regions = start.regions ++ created
  covered : ∀ cell, IsCovered created cell → sheet.contents cell = (start.contents cell).withoutContent
  other : ∀ cell, ¬IsCovered created cell → sheet.contents cell = start.contents cell

theorem registers_none (sound : start.Sound rows columns) : Registers rows columns start [] start where
  sound := sound
  live := rfl
  regions := (List.append_nil _).symm
  covered cell covered := by
    obtain ⟨_, member, _⟩ := covered
    cases member
  other cell _ := rfl

theorem isCovered_append {cell : Address Int} :
    IsCovered (created ++ [region]) cell ↔
      IsCovered created cell ∨ region.cells.contains cell = true ∧ cell ≠ region.cells.topLeft := by
  simp only [IsCovered, List.mem_append, List.mem_singleton, or_and_right, exists_or, exists_eq_left]

/-- Where a region is registered, its covered cells are emptied, and nothing else changes. -/
theorem Sound.contents_merged (sound : sheet.Sound rows columns) (region : MergeRegion) (merges : MergeRegistry)
    (cell : Address Int) :
    (sheet.merged region merges).contents cell =
      if region.cells.contains cell = true ∧ cell ≠ region.cells.topLeft then (sheet.contents cell).withoutContent
      else sheet.contents cell := by
  unfold Sheet.contents Sheet.merged
  rw [sound.grid.holding_eraseCovered]
  split <;> rfl

/-- One region more. -/
theorem Registers.merged (registers : Registers rows columns start created sheet) {range : Range Number}
    {merges : MergeRegistry} (accepted : sheet.merges.merge range = .ok (region, merges))
    (within : (areaOf rows columns).containsRange region.cells = true) :
    Registers rows columns start (created ++ [region]) (sheet.merged region merges) := by
  have sound : (sheet.merged region merges).Sound rows columns :=
    registers.sound.act (.merge accepted (registers.sound.area_eq ▸ within))
  have contents := registers.sound.contents_merged region merges
  obtain ⟨_, added, _⟩ := MergeRegistry.merge_ok accepted
  refine ⟨sound, registers.live, ?_, ?_, ?_⟩
  · change merges.regions = _
    rw [added, ← List.append_assoc, ← registers.regions]
    rfl
  · intro cell covered
    rw [contents]
    by_cases before : IsCovered created cell
    · rw [registers.covered cell before]
      split <;> rfl
    · rw [registers.other cell before, if_pos ((isCovered_append.mp covered).resolve_left before)]
  · intro cell free
    rw [isCovered_append, not_or] at free
    rw [contents, if_neg free.2, registers.other cell free.1]

/-- A sheet after the regions that share a cell with a target are gone. -/
structure Clears (start : Sheet) (target : Range Int) (cleared : Sheet) : Prop where
  sublist : cleared.regions.Sublist start.regions
  kept : ∀ region, region ∈ cleared.regions ↔ region ∈ start.regions ∧ region.cells.Apart target
  contents : ∀ cell, cleared.contents cell = start.contents cell

/-- What has come of a sheet after regions inside a source were copied into a target: regions that were in the way are
gone, and the copies are registered. -/
structure Replicates (rows columns : Nat) (start : Sheet) (source target : Range Int) (created : List MergeRegion)
    (sheet : Sheet) : Prop where
  idle : (∀ region ∈ start.regions, source.containsRange region.cells = false) → sheet = start
  registers : ∃ cleared : Sheet, cleared.regions.Sublist start.regions ∧
    (∀ region ∈ start.regions, region.cells.Apart target → region ∈ cleared.regions) ∧
    (∀ cell, cleared.contents cell = start.contents cell) ∧ Registers rows columns cleared created sheet
  inside : ∀ region ∈ created, target.containsRange region.cells = true

section replicates
variable {source target : Range Int} {cell : Address Int}
  (replicates : Replicates rows columns start source target created sheet)
include replicates

theorem Replicates.covered (covered : IsCovered created cell) :
    sheet.contents cell = (start.contents cell).withoutContent := by
  obtain ⟨_, _, _, same, registers⟩ := replicates.registers
  rw [registers.covered cell covered, same]

theorem Replicates.other (free : ¬IsCovered created cell) : sheet.contents cell = start.contents cell := by
  obtain ⟨_, _, _, same, registers⟩ := replicates.registers
  rw [registers.other cell free, same]

theorem Replicates.outside (outside : target.contains cell = false) : sheet.contents cell = start.contents cell :=
  replicates.other fun covered => by simp [covered.contains replicates.inside] at outside

theorem Replicates.sound : sheet.Sound rows columns := by
  obtain ⟨_, _, _, _, registers⟩ := replicates.registers
  exact registers.sound

theorem Replicates.registered (member : region ∈ created) : region ∈ sheet.merges.regions := by
  obtain ⟨cleared, _, _, _, registers⟩ := replicates.registers
  rw [show sheet.merges.regions = cleared.regions ++ created from registers.regions]
  exact List.mem_append_right _ member

theorem Replicates.contains_topLeft (member : region ∈ created) :
    region.cells.contains region.cells.topLeft = true :=
  Range.contains_topLeft (replicates.sound.merges.proper region (replicates.registered member))

/-- The first cell of a new region is not covered. -/
theorem Replicates.not_isCovered_topLeft (member : region ∈ created) : ¬IsCovered created region.cells.topLeft := by
  rintro ⟨other, listed, inside, differs⟩
  have same : other = region := replicates.sound.merges.eq_of_contains (replicates.registered listed)
    (replicates.registered member) inside (replicates.contains_topLeft member)
  exact differs (by rw [same])

end replicates

end Sheet

namespace Session
open Run Sheet
variable {rows columns : Nat} {publish : Publisher} {world : SheetWorld} {start : Sheet} {created : List MergeRegion}
variable (tells : OnlyTells publish)
include tells

/-- A range that is admitted is registered. -/
theorem succeeds_addMerge (reads : world.feed.OnlyRead) (registers : Registers rows columns start created world.state)
    {range : Range Number} {cells : Range Int} (named : range.toInt? = some cells)
    (admits : world.state.merges.Admits cells) (within : (areaOf rows columns).containsRange cells = true) :
    Succeeds (addMerge publish range) world fun region state =>
      region.given = range ∧ region.cells = cells ∧ Registers rows columns start (created ++ [region]) state := by
  obtain ⟨region, accepted, given, rfl⟩ := registers.sound.merges.merge_of_admits named admits
  refine Succeeds.of_outcome (outcome_addMerge accepted) ?_
  refine Succeeds.bind (tells _ _ reads) ?_
  rintro _ _ news rfl
  exact succeeds_pure ⟨given, rfl, registers.merged accepted within⟩

/-- Ranges of the sheet that are apart from each other and from all regions are all registered. -/
theorem succeeds_mapM_addMerge (reads : world.feed.OnlyRead) (sound : world.state.Sound rows columns)
    {givens : List (Range Number)} {copies : List (Range Int)} (named : List.Forall₂ Tiling.Names givens copies)
    (shaped : ∀ copy ∈ copies, copy.Proper ∧ copy.IsLarge ∧ (areaOf rows columns).containsRange copy = true)
    (apart : copies.Pairwise Range.Apart) (free : ∀ copy ∈ copies, ∀ region ∈ world.state.regions, region.cells.Apart copy) :
    Succeeds (givens.mapM (addMerge publish)) world fun created state =>
      created.map MergeRegion.cells = copies ∧ Registers rows columns world.state created state := by
  let ready (givens : List (Range Number)) (created : List MergeRegion) (state : Sheet) : Prop :=
    Registers rows columns world.state created state ∧ ∃ rest, copies = created.map MergeRegion.cells ++ rest ∧
      List.Forall₂ Tiling.Names givens rest
  have walk : Succeeds (givens.mapM (addMerge publish)) world fun created state => ready [] ([] ++ created) state := by
    refine succeeds_mapM ?_ givens [] reads ⟨registers_none sound, copies, rfl, named⟩
    rintro now given givens created reads ⟨registers, rest, listed, named⟩
    cases named with
    | @cons _ copy _ rest first others =>
      obtain ⟨proper, large, within⟩ := shaped copy (by simp [listed])
      have admits : now.state.merges.Admits copy := by
        have inside := Range.containsRange_iff.mp within
        refine ⟨inside.1, inside.2.2.1, proper, large, ?_⟩
        intro region member
        have listedRegion : region ∈ now.state.regions := member
        rw [registers.regions] at listedRegion
        rcases List.mem_append.mp listedRegion with old | new
        · exact free copy (by simp [listed]) region old
        · rw [listed] at apart
          exact (List.pairwise_append.mp apart).2.2 _ (List.mem_map_of_mem new) copy List.mem_cons_self
      refine (succeeds_addMerge tells reads registers first admits within).mono ?_
      rintro region state ⟨_, rfl, more⟩
      exact ⟨more, rest, by simp [listed], others⟩
  refine walk.mono ?_
  rintro created state ⟨registers, rest, listed, ends⟩
  cases ends
  exact ⟨by simpa using listed.symm, registers⟩

/-- The regions that share a cell with a range are removed. -/
theorem succeeds_unmergeInRange (reads : world.feed.OnlyRead) (live : world.state.isDisposed = false)
    (range : Range Number) :
    Succeeds (unmergeInRange publish range) world fun _ state =>
      state = world.state.withMerges (world.state.merges.unmergeInRange range).2 := by
  refine Succeeds.of_outcome (outcome_unmergeInRange live range) ?_
  have told (after : SheetWorld) (same : after.feed = world.feed) :
      Succeeds ((world.state.merges.inRange range).forM fun region => publish (.unmerge region.cells)) after
        fun _ state => state = after.state := by
    have all := succeeds_forM tells (same ▸ reads) ((world.state.merges.inRange range).map (.unmerge ·.cells))
    rwa [List.forM_eq_forM, List.forM_map] at all
  refine Succeeds.bind (told _ rfl) ?_
  rintro _ _ news rfl
  exact succeeds_pure rfl

/-- Of the copies that are laid out in a free target, those that the sheet has room for are registered. -/
theorem succeeds_mapM_laid (reads : world.feed.OnlyRead) (sound : world.state.Sound rows columns) {target : Range Int}
    {givens : List (Range Number)} {copies : List (Range Int)} (laid : Tiling.Laid target givens copies)
    (free : ∀ region ∈ world.state.regions, region.cells.Apart target) :
    Succeeds ((givens.filter world.state.holds).mapM (addMerge publish)) world fun created state =>
      Registers rows columns world.state created state ∧
        created.map MergeRegion.cells = copies.filter (areaOf rows columns).containsRange := by
  have held : List.Forall₂ Tiling.Names (givens.filter world.state.holds)
      (copies.filter (areaOf rows columns).containsRange) := by
    refine List.rel_filter ?_ laid.named
    intro given copy same
    have fits : world.state.holds given = (areaOf rows columns).containsRange copy := by
      rw [← sound.area_eq, Sheet.holds, show given.toInt? = some copy from same]
    simp only [fits]
  refine (succeeds_mapM_addMerge tells reads sound held ?_ (laid.apart.filter _) ?_).mono fun _ _ done => done.symm
  · intro copy member
    obtain ⟨listed, within⟩ := List.mem_filter.mp member
    exact ⟨laid.proper copy listed, laid.large copy listed, within⟩
  · exact fun copy member region listed => (free region listed).mono (laid.inside copy (List.mem_filter.mp member).1)

omit tells in
/-- Without a region inside the source there is nothing to do. -/
theorem outcome_replicateMerges_none (sound : world.state.Sound rows columns) (live : world.state.isDisposed = false)
    {source target : Range Number} {wide : Range Int} (named : source.toInt? = some wide) (vertical : Bool)
    (none : ∀ region ∈ world.state.regions, wide.containsRange region.cells = false) :
    (replicateMerges publish source target vertical).outcome world = (.ok [], world) := by
  have empty : world.state.merges.inside source = [] := by
    refine List.eq_nil_iff_forall_not_mem.mpr fun region member => ?_
    obtain ⟨listed, within⟩ := (sound.merges.mem_inside named).mp member
    simp [none region listed] at within
  refine ((outcome_check_ok (Sheet.requireLive_ok live)).trans (outcome_bind_ok outcome_sheet)).trans ?_
  rw [empty]
  rfl

omit tells in
/-- A region that is registered is the one that was given. -/
theorem given_of_addMerge {range : Range Number} {region : MergeRegion} {after : SheetWorld}
    (done : (addMerge publish range).outcome world = (.ok region, after)) : region.given = range := by
  cases accepted : world.state.merges.merge range with
  | error error =>
    rw [outcome_addMerge_of_error accepted] at done
    cases done
  | ok found =>
    rw [outcome_addMerge accepted] at done
    obtain ⟨_, _, _, same⟩ := outcome_bind_eq_ok done
    cases same
    exact (MergeRegion.ofRange_ok (MergeRegistry.merge_ok accepted).1).1

omit tells in
/-- Whatever subscribers do when they are told, what is created are copies of regions inside the source. -/
theorem exists_isReplica (sound : world.state.Sound rows columns) {source target : Range Number} {wide goal : Range Int}
    (first : source.checked = .ok wide) (second : target.checked = .ok goal) (small : wide.IsSmall)
    (short : goal.IsSmall) {vertical : Bool} {after : SheetWorld}
    (done : (replicateMerges publish source target vertical).outcome world = (.ok created, after)) :
    ∀ region ∈ created, ∃ origin ∈ world.state.regions, wide.containsRange origin.cells = true ∧
      Tiling.IsReplica wide goal vertical origin.cells region.cells := by
  obtain ⟨copies, laid, replicas⟩ := sound.merges.exists_laid first second small short vertical
  unfold replicateMerges at done
  cases passed : world.state.requireLive with
  | error error =>
    rw [outcome_check_error passed] at done
    cases done
  | ok answer =>
    rw [outcome_check_ok passed, outcome_bind_ok outcome_sheet] at done
    dsimp only at done
    split at done
    · cases done
      simp
    · obtain ⟨_, now, _, more⟩ := outcome_bind_eq_ok done
      rw [outcome_bind_ok outcome_sheet] at more
      obtain ⟨_, _, walked, others⟩ := outcome_bind_eq_ok more
      obtain ⟨_, _, _, last⟩ := outcome_bind_eq_ok others
      obtain ⟨_, _, _, same⟩ := outcome_bind_eq_ok last
      cases same
      intro region member
      obtain ⟨given, listed, _, _, added⟩ := exists_of_mem_mapM walked region member
      obtain ⟨copy, copied, names⟩ := laid.exists_named (List.mem_filter.mp listed).1
      have cells : region.cells = copy := by
        rw [← given_of_addMerge added] at names
        exact Option.some.inj (region.named.symm.trans names)
      exact (replicas region.cells).mp (cells ▸ copied)

/-- Regions inside the source are copied, if source and target pass their checks and there are any. -/
theorem succeeds_replicateMerges_some (reads : world.feed.OnlyRead) (sound : world.state.Sound rows columns)
    (live : world.state.isDisposed = false) {source target : Range Number} {wide goal : Range Int}
    (first : source.checked = .ok wide) (second : target.checked = .ok goal) (small : wide.IsSmall)
    (short : goal.IsSmall) (vertical : Bool)
    (found : ∃ region ∈ world.state.regions, wide.containsRange region.cells = true) :
    Succeeds (replicateMerges publish source target vertical) world fun created state =>
      ∃ cleared, world.state.Clears goal cleared ∧ Registers rows columns cleared created state ∧
        ∀ copy, copy ∈ created.map MergeRegion.cells ↔ (areaOf rows columns).containsRange copy = true ∧
          ∃ region ∈ world.state.regions, wide.containsRange region.cells = true ∧
            Tiling.IsReplica wide goal vertical region.cells copy := by
  have begins : (replicateMerges publish source target vertical).outcome world = _ :=
    (outcome_check_ok (Sheet.requireLive_ok live)).trans (outcome_bind_ok outcome_sheet)
  refine Succeeds.of_outcome begins ?_
  obtain ⟨named, _⟩ := Range.checked_ok_iff.mp first
  obtain ⟨arrives, _, _, order⟩ := Range.checked_ok_iff.mp second
  have more : ¬(world.state.merges.inside source).isEmpty = true := by
    intro empty
    obtain ⟨region, listed, within⟩ := found
    have member := (sound.merges.mem_inside named).mpr ⟨listed, within⟩
    rw [List.isEmpty_iff.mp empty] at member
    cases member
  rw [if_neg more]
  obtain ⟨copies, laid, replicas⟩ := sound.merges.exists_laid first second small short vertical
  have kept := sound.merges.changesList.kept target goal arrives order
  refine Succeeds.bind (succeeds_unmergeInRange tells reads live target) ?_
  rintro removed _ news rfl
  refine Succeeds.of_outcome (outcome_bind_ok outcome_sheet) ?_
  let cleared := world.state.withMerges (world.state.merges.unmergeInRange target).2
  let next : SheetWorld := { world with state := cleared, trace := news ++ world.trace }
  have readsNext : next.feed.OnlyRead := reads
  refine Succeeds.bind (succeeds_mapM_laid tells readsNext (sound.unmergeInRange target) laid
    fun region listed => ((kept.2 region).mp listed).2) ?_
  rintro created state news ⟨registers, same⟩
  obtain ⟨_, wrote⟩ := A1.exists_ofRange first
  obtain ⟨_, written⟩ := A1.exists_ofRange second
  refine Succeeds.bind (succeeds_lift wrote) ?_
  rintro _ _ _ ⟨rfl, rfl⟩
  refine Succeeds.bind (succeeds_lift written) ?_
  rintro _ _ _ ⟨rfl, rfl⟩
  refine succeeds_pure ⟨cleared, ⟨kept.1, kept.2, fun _ => rfl⟩, registers, fun copy => ?_⟩
  rw [same, List.mem_filter, replicas, and_comm]
  rfl

/-- Regions inside the source are copied, whatever they are, if source and target pass their checks. -/
theorem succeeds_replicateMerges (reads : world.feed.OnlyRead) (sound : world.state.Sound rows columns)
    (live : world.state.isDisposed = false) {source target : Range Number} {wide goal : Range Int}
    (first : source.checked = .ok wide) (second : target.checked = .ok goal) (small : wide.IsSmall)
    (short : goal.IsSmall) (vertical : Bool) :
    Succeeds (replicateMerges publish source target vertical) world fun created state =>
      Replicates rows columns world.state wide goal created state ∧ ∀ region ∈ created, ∃ origin ∈ world.state.regions,
        wide.containsRange origin.cells = true ∧ Tiling.IsReplica wide goal vertical origin.cells region.cells := by
  by_cases found : ∃ region ∈ world.state.regions, wide.containsRange region.cells = true
  · refine (succeeds_replicateMerges_some tells reads sound live first second small short vertical found).mono ?_
    rintro created state ⟨cleared, clears, registers, copies⟩
    have copied (region : MergeRegion) (member : region ∈ created) :=
      ((copies region.cells).mp (List.mem_map_of_mem member)).2
    refine ⟨⟨fun none => ?_, ⟨cleared, clears.sublist, fun region member apart =>
      (clears.kept region).mpr ⟨member, apart⟩, clears.contents, registers⟩, fun region member => ?_⟩, copied⟩
    · obtain ⟨region, listed, within⟩ := found
      simp [none region listed] at within
    · obtain ⟨_, _, _, _, _, _, inside⟩ := copied region member
      exact inside
  · simp only [not_exists, not_and, Bool.not_eq_true] at found
    obtain ⟨named, _⟩ := Range.checked_ok_iff.mp first
    exact ⟨[], world.state, [], outcome_replicateMerges_none sound live named vertical found, ⟨fun _ => rfl,
      ⟨world.state, .refl _, fun _ member _ => member, fun _ => rfl, registers_none sound⟩, by simp⟩, by simp⟩

end Session
end Spreadsheet
