import Spreadsheet.Proofs.Sheet.Registering
import Spreadsheet.Sheet.Host

/-! Regions of a source are tiled over a target. The regions that come of it are told exactly: each whole tile has one copy
of each region, if there is room for it in the target, and no copy is ever in the way of another. -/
namespace Spreadsheet

/-- What tiling the regions of a source over a target comes to. -/
structure Sheet.Tiles (before : Sheet) (source target : Range Int) (vertical : Bool) (created : List MergeRegion)
    (after : Sheet) : Prop where
  regions : ∃ kept, after.regions = kept ++ created ∧ kept.Sublist before.regions ∧
    ∀ region, region ∈ kept ↔ region ∈ before.regions ∧ region.cells.Apart target
  copies : ∀ copy, copy ∈ created.map MergeRegion.cells ↔
    ∃ region ∈ before.regions, source.containsRange region.cells = true ∧
      Tiling.IsReplica source target vertical region.cells copy
  apart : created.Pairwise fun a b => a.cells.Apart b.cells
  covered : ∀ cell, IsCovered created cell → after.contents cell = (before.contents cell).withoutContent
  other : ∀ cell, ¬IsCovered created cell → after.contents cell = before.contents cell

namespace SheetWorld
open Run Session Sheet
variable {world : SheetWorld} {source target : Range Number} {wide goal : Range Int}

/-- Without a region inside the source nothing happens at all. Else the regions that meet the target are gone and copies
of those inside the source are there, one for each whole tile that has room for it. -/
theorem Reachable.replicateMerges_tiles (reachable : Reachable world) (live : world.state.isDisposed = false)
    (reads : world.feed.OnlyRead) (fuel : Nat) (named : source.toInt? = some wide) (proper : wide.Proper)
    (within : world.state.area.containsRange wide = true) (arrives : target.toInt? = some goal) (order : goal.Proper)
    (inside : world.state.area.containsRange goal = true) (vertical : Bool) :
    let replicate := replicateMerges (Run.emit (sheetHost.act fuel) sheetHost.describe) source target vertical
    ((∀ region ∈ world.state.regions, wide.containsRange region.cells = false) → replicate.outcome world = (.ok [], world)) ∧
      ((∃ region ∈ world.state.regions, wide.containsRange region.cells = true) → ∃ created after news,
        replicate.outcome world = (.ok created, { world with state := after, trace := news ++ world.trace }) ∧
          world.state.Tiles wide goal vertical created after) := by
  intro replicate
  obtain ⟨rows, columns, sound, _⟩ := reachable.sound
  have first := checked_of_writableRange (writableRange_ok_iff.mpr ⟨live, named, proper, within⟩)
  have second := checked_of_writableRange (writableRange_ok_iff.mpr ⟨live, arrives, order, inside⟩)
  refine ⟨outcome_replicateMerges_none sound live named vertical, fun found => ?_⟩
  obtain ⟨created, after, news, done, cleared, clears, registers, copies⟩ :=
    succeeds_replicateMerges_some (Run.onlyTells_emit _ _) reads sound live first second
      (sound.bounded.isSmall within proper) (sound.bounded.isSmall inside order) vertical found
  refine ⟨created, after, news, done, ⟨cleared.regions, registers.regions, clears.sublist, clears.kept⟩, ?_, ?_, ?_, ?_⟩
  · -- A target of the sheet leaves no copy without room in the sheet.
    intro copy
    rw [copies, and_iff_right_iff_imp]
    rintro ⟨_, _, _, _, _, _, held⟩
    rw [← sound.area_eq]
    exact Range.containsRange_trans inside held
  · have disjoint : after.regions.Pairwise fun a b => a.cells.Apart b.cells := registers.sound.merges.disjoint
    rw [registers.regions] at disjoint
    exact (List.pairwise_append.mp disjoint).2.1
  · intro cell covered
    rw [registers.covered cell covered, clears.contents]
  · intro cell free
    rw [registers.other cell free, clears.contents]

/-- A region of two rows over a target of five rows, where another one is in the way: two copies, and a row is left. -/
theorem replicateMerges_tiles_with_reader :
    let start : SheetWorld := { state := { rows := maxRows, columns := maxColumns } }
    let first := (sheetHost.act 3 (.request (.merge ⟨0, 0, 1, 0⟩))).leaves start
    let second := (sheetHost.act 3 (.request (.merge ⟨5, 0, 5, 1⟩))).leaves first
    let third := (sheetHost.act 3 (.request (.setValue ⟨3, 0⟩ (some (.number 7))))).leaves second
    let world := (sheetHost.act 3 (.subscribe "reader" (fun _ => []) none)).leaves third
    let replicate := replicateMerges (Run.emit (sheetHost.act 3) sheetHost.describe) ⟨0, 0, 1, 1⟩ ⟨2, 0, 6, 1⟩ true
    ∃ created after news,
      replicate.outcome world = (.ok created, { world with state := after, trace := news ++ world.trace }) ∧
      world.state.Tiles ⟨0, 0, 1, 1⟩ ⟨2, 0, 6, 1⟩ true created after ∧
      created.map MergeRegion.cells = [⟨2, 0, 3, 0⟩, ⟨4, 0, 5, 0⟩] ∧ after.regions.length = 3 ∧ after.value? ⟨3, 0⟩ = none := by
  intro start first second third world replicate
  have begin : Reachable start := .created (.record []) {} [] rfl rfl
  have reachable : Reachable world := (((begin.acted 3 _).acted 3 _).acted 3 _).acted 3 _
  have alone : third.feed.subscriptions = [] := List.isEmpty_iff.mp (by decide +kernel)
  have reads : world.feed.OnlyRead :=
    Feed.OnlyRead.subscribe (Feed.onlyRead_of_nil alone) sheetHost 2 "reader" fun _ => rfl
  have named : Range.toInt? ⟨0, 0, 1, 1⟩ = some ⟨0, 0, 1, 1⟩ := by decide +kernel
  have arrives : Range.toInt? ⟨2, 0, 6, 1⟩ = some ⟨2, 0, 6, 1⟩ := by decide +kernel
  obtain ⟨created, after, news, done, tiles⟩ :=
    (reachable.replicateMerges_tiles (by decide +kernel) reads 3 named ⟨by decide, by decide⟩ (by decide +kernel)
      arrives ⟨by decide, by decide⟩ (by decide +kernel) true).2 (by decide +kernel)
  have evaluated :
      (replicate.outcome world).1.toOption.map (·.map MergeRegion.cells) = some [⟨2, 0, 3, 0⟩, ⟨4, 0, 5, 0⟩] ∧
        (replicate.outcome world).2.state.regions.length = 3 ∧
        (replicate.outcome world).2.state.value? ⟨3, 0⟩ = none := by
    decide +kernel
  change replicate.outcome world = _ at done
  generalize replicate.outcome world = outcome at done evaluated ⊢
  subst done
  obtain ⟨regions, count, gone⟩ := evaluated
  exact ⟨created, after, news, rfl, tiles, Option.some.inj regions, count, gone⟩

end SheetWorld
end Spreadsheet
