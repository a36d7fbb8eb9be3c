import Spreadsheet.Proofs.Sheet.Batching

/-! What the parts of requests for merged regions do: how the sheet changes first, and what is told of it then. -/
namespace Spreadsheet

namespace Sheet

/-- The sheet with another registry of regions. -/
def withMerges (sheet : Sheet) (merges : MergeRegistry) : Sheet := { sheet with merges }

/-- The sheet in which a region has been registered: its covered cells hold no values. -/
def merged (sheet : Sheet) (region : MergeRegion) (merges : MergeRegistry) : Sheet :=
  { sheet with merges, grid := sheet.grid.eraseCovered region.cells }

variable {rows columns : Nat} {sheet : Sheet}

/-- A sheet stays sound without the region that covers a cell, if there is one. -/
theorem Sound.unmerge (sound : sheet.Sound rows columns) (address : Address Number) :
    (sheet.withMerges (sheet.merges.unmerge address).2).Sound rows columns := by
  unfold MergeRegistry.unmerge
  cases found : sheet.merges.at? address with
  | none => exact sound
  | some region =>
    have registered := sound.merges.mem_of_at? found
    exact sound.act (.unmerge [region] (by simpa using registered))

theorem Sound.unmergeInRange (sound : sheet.Sound rows columns) (range : Range Number) :
    (sheet.withMerges (sheet.merges.unmergeInRange range).2).Sound rows columns :=
  sound.act (.unmerge _ fun _ member => (List.mem_filter.mp member).1)

end Sheet

namespace Session
open Run
variable {publish : Publisher} {world : SheetWorld}

theorem outcome_setMerges (merges : MergeRegistry) :
    (setMerges merges).outcome world = (.ok (), { world with state := world.state.withMerges merges }) := rfl

theorem outcome_addMerge {range : Range Number} {region : MergeRegion} {merges : MergeRegistry}
    (accepted : world.state.merges.merge range = .ok (region, merges)) :
    (addMerge publish range).outcome world =
      (publish (.merge region.cells) >>= fun _ => pure region).outcome
        { world with state := world.state.merged region merges } := by
  unfold addMerge
  rw [outcome_check_ok accepted]
  exact (outcome_bind_ok (outcome_setMerges merges)).trans (outcome_bind_ok (outcome_modifySheet _))

theorem outcome_addMerge_of_error {range : Range Number} {error : SheetError}
    (refused : world.state.merges.merge range = .error error) :
    (addMerge publish range).outcome world = (.error error, world) := outcome_check_error refused

theorem outcome_unmerge (live : world.state.isDisposed = false) (address : Address Number) :
    (unmerge publish address).outcome world =
      ((world.state.merges.unmerge address).1.forM (fun region => publish (.unmerge region.cells)) >>= fun _ =>
        pure (world.state.merges.unmerge address).1).outcome
        { world with state := world.state.withMerges (world.state.merges.unmerge address).2 } := by
  unfold unmerge
  rw [outcome_check_ok (Sheet.requireLive_ok live), outcome_bind_ok outcome_sheet]
  exact outcome_bind_ok (outcome_setMerges _)

theorem outcome_unmergeInRange (live : world.state.isDisposed = false) (range : Range Number) :
    (unmergeInRange publish range).outcome world =
      ((world.state.merges.inRange range).forM (fun region => publish (.unmerge region.cells)) >>= fun _ =>
        pure (world.state.merges.inRange range)).outcome
        { world with state := world.state.withMerges (world.state.merges.unmergeInRange range).2 } := by
  unfold unmergeInRange
  rw [outcome_check_ok (Sheet.requireLive_ok live), outcome_bind_ok outcome_sheet]
  exact outcome_bind_ok (outcome_setMerges _)

theorem outcome_takeAway (region : MergeRegion) :
    (takeAway publish region).outcome world =
      (publish (.unmerge region.cells)).outcome
        { world with state := world.state.withMerges (world.state.merges.unmerge region.anchor).2 } := by
  unfold takeAway
  rw [outcome_bind_ok outcome_sheet, outcome_bind_ok (outcome_setMerges _)]

end Session
end Spreadsheet
