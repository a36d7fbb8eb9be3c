import Spreadsheet.Proofs.Sheet.Acts

/-! Writing while a batch is open: nothing is told, and what is written waits. -/
namespace Spreadsheet

namespace Sheet
variable {sheet : Sheet}

/-- Puts cells one after another until one has not been made. -/
def putAll (sheet : Sheet) : List (Address Int × Except SheetError (Option Cell)) → Except SheetError Unit × Sheet
  | [] => (.ok (), sheet)
  | (_, .error error) :: _ => (.error error, sheet)
  | (address, .ok cell) :: rest => (sheet.edited (sheet.putEdit address cell)).putAll rest

/-- The cells that a fill of a range puts, unless there is nothing to put. -/
def filling? (sheet : Sheet) (source : Address Number) (cells : Range Int) (target : Range Number)
    (generator : Option Generator) : Option (List (Address Int × Except SheetError (Option Cell))) :=
  match generator, sheet.source? source with
  | some generator, cell =>
    some (cells.cells.map fun address => (address, generator (address.walkedFrom target.topLeft) cell))
  | none, some cell => some (cells.cells.map fun address => (address, .ok (some cell.withoutRichText)))
  | none, none => none

@[simp] theorem openBatches_edited (edit : Edit) : (sheet.edited edit).openBatches = sheet.openBatches := by
  unfold edited awaiting
  split <;> rfl

@[simp] theorem grid_edited (edit : Edit) : (sheet.edited edit).grid = edit.grid := by
  unfold edited awaiting
  split <;> rfl

@[simp] theorem isDisposed_edited (edit : Edit) : (sheet.edited edit).isDisposed = sheet.isDisposed := by
  unfold edited awaiting
  split <;> rfl

@[simp] theorem merges_edited (edit : Edit) : (sheet.edited edit).merges = sheet.merges := by
  unfold edited awaiting
  split <;> rfl

/-- What no edit changes stays as it is while cells are put. -/
theorem putAll_frame {α : Type} (part : Sheet → α) (frame : ∀ sheet edit, part (edited sheet edit) = part sheet)
    (cells : List (Address Int × Except SheetError (Option Cell))) : part (sheet.putAll cells).2 = part sheet := by
  induction cells generalizing sheet with
  | nil => rfl
  | cons first rest ih =>
    obtain ⟨address, made⟩ := first
    cases made with
    | error error => rfl
    | ok cell => exact ih.trans (frame _ _)

theorem isDisposed_putAll (cells : List (Address Int × Except SheetError (Option Cell))) :
    (sheet.putAll cells).2.isDisposed = sheet.isDisposed := putAll_frame isDisposed (fun _ _ => isDisposed_edited _) cells

theorem merges_putAll (cells : List (Address Int × Except SheetError (Option Cell))) :
    (sheet.putAll cells).2.merges = sheet.merges := putAll_frame merges (fun _ _ => merges_edited _) cells

/-- In a batch nothing is told at once. -/
theorem prompt_of_open (opened : 0 < sheet.openBatches) (change : Change Int) : sheet.prompt change = [] :=
  if_neg (Nat.pos_iff_ne_zero.mp opened)

end Sheet

namespace Session
open Run
variable {publish : Publisher} {close : Session Unit} {world : SheetWorld}

/-- An edit in a batch only changes the sheet. -/
theorem outcome_settle_of_open (opened : 0 < world.state.openBatches) (edit : Edit) :
    (settle publish (.ok edit)).outcome world = (.ok (), { world with state := world.state.edited edit }) := by
  rw [outcome_settle_ok, Sheet.prompt_of_open opened]
  rfl

/-- The cells of a fill in a batch. -/
theorem outcome_forM_put (cells : List (Address Int × Except SheetError (Option Cell)))
    (opened : 0 < world.state.openBatches) :
    (cells.forM (put publish)).outcome world =
      ((world.state.putAll cells).1, { world with state := (world.state.putAll cells).2 }) := by
  induction cells generalizing world with
  | nil => rfl
  | cons first rest ih =>
    obtain ⟨address, made⟩ := first
    cases made with
    | error error => exact outcome_bind_error ((outcome_put address _).trans (outcome_settle_error error))
    | ok cell =>
      have written : (put publish (address, .ok cell)).outcome world =
          (.ok (), { world with state := world.state.edited (world.state.putEdit address cell) }) :=
        (outcome_put address _).trans (outcome_settle_of_open opened _)
      exact (outcome_bind_ok written).trans (ih (by simpa using opened))

/-- A batch that can be opened runs its body, is closed whatever happened, and tells what waits if it is the last. -/
theorem outcome_batch {α : Type} {body : Session α} {result : Except SheetError α} {after : SheetWorld}
    (live : world.state.isDisposed = false)
    (done : body.outcome { world with state := world.state.batchOpened } = (result, after)) :
    (batch publish body).outcome world =
      (after.state.due.forM publish >>= fun _ => lift result).outcome
        { after with state := after.state.batchClosed } := by
  have opened : beginBatch.outcome world = (.ok (), { world with state := world.state.batchOpened }) := by
    unfold beginBatch
    rw [outcome_check_ok (Sheet.requireLive_ok live)]
    rfl
  unfold batch
  rw [outcome_bind_ok opened, outcome_bind_ok (outcome_attempt body), done, outcome_bind, outcome_bind, outcome_endBatch]

theorem outcome_writeAll (cells : List (Address Int × Except SheetError (Option Cell)))
    (live : world.state.isDisposed = false) {result : Except SheetError Unit} {after : Sheet}
    (done : world.state.batchOpened.putAll cells = (result, after)) :
    (writeAll publish cells).outcome world =
      (after.due.forM publish >>= fun _ => lift result).outcome { world with state := after.batchClosed } := by
  have body : (cells.forM (put publish)).outcome { world with state := world.state.batchOpened } =
      (result, { world with state := after }) :=
    (outcome_forM_put cells (Nat.succ_pos _)).trans (by simp only [done])
  exact outcome_batch live body

/-- A fill of a range puts all of its cells in a batch. -/
theorem outcome_fillRange {source : Address Number} {target : Range Number} {cells : Range Int}
    {generator : Option Generator} (passed : world.state.writableRange target = .ok cells) :
    (fillRange publish source target generator).outcome world =
      ((world.state.filling? source cells target generator).elim (pure ()) (writeAll publish)).outcome world := by
  unfold fillRange Sheet.filling?
  rw [outcome_check_ok passed, Run.outcome_bind_ok outcome_sheet]
  cases generator <;> cases world.state.source? source <;> rfl

end Session
end Spreadsheet
