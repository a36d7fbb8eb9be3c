import Spreadsheet.Proofs.Sheet.Batching

/-! What is written while a batch is open. It tells nothing, whatever has failed: the range that waits grows by the areas
that have been written, and the batches that were opened for it are closed. -/
namespace Spreadsheet

namespace Sheet
variable {sheet after last : Sheet} {areas others : List (Range Int)}

/-- What becomes of a sheet, apart from contents, when areas are written in batches: what waits grows by them. -/
structure Widened (sheet : Sheet) (areas : List (Range Int)) (after : Sheet) : Prop where
  rows_eq : after.rows = sheet.rows
  columns_eq : after.columns = sheet.columns
  isDisposed_eq : after.isDisposed = sheet.isDisposed
  pending_eq : after.pending = areas.foldl Range.widen sheet.pending

/-- The same where no batch is closed that was open before, and where none is left open unless it is said so. -/
structure Deepened (opens : Bool) (sheet : Sheet) (areas : List (Range Int)) (after : Sheet) : Prop
    extends Widened sheet areas after where
  openBatches_le : sheet.openBatches ≤ after.openBatches
  openBatches_eq : opens = false → after.openBatches = sheet.openBatches

theorem Widened.refl (sheet : Sheet) : Widened sheet [] sheet := ⟨rfl, rfl, rfl, rfl⟩

theorem Widened.trans (first : Widened sheet areas after) (second : Widened after others last) :
    Widened sheet (areas ++ others) last where
  rows_eq := second.rows_eq.trans first.rows_eq
  columns_eq := second.columns_eq.trans first.columns_eq
  isDisposed_eq := second.isDisposed_eq.trans first.isDisposed_eq
  pending_eq := by rw [second.pending_eq, first.pending_eq, List.foldl_append]

theorem Deepened.refl (opens : Bool) (sheet : Sheet) : Deepened opens sheet [] sheet :=
  ⟨.refl sheet, Nat.le_refl _, fun _ => rfl⟩

theorem Deepened.trans {opens more : Bool} (first : Deepened opens sheet areas after)
    (second : Deepened more after others last) : Deepened (opens || more) sheet (areas ++ others) last where
  toWidened := first.toWidened.trans second.toWidened
  openBatches_le := Nat.le_trans first.openBatches_le second.openBatches_le
  openBatches_eq none := by
    obtain ⟨left, right⟩ := Bool.or_eq_false_iff.mp none
    rw [second.openBatches_eq right, first.openBatches_eq left]

theorem Deepened.mono {opens more : Bool} (written : Deepened opens sheet areas after)
    (implied : more = false → opens = false) : Deepened more sheet areas after :=
  ⟨written.toWidened, written.openBatches_le, fun none => written.openBatches_eq (implied none)⟩

theorem deepened_edited (opened : 0 < sheet.openBatches) (edit : Edit) :
    Deepened false sheet [edit.area] (sheet.edited edit) := by
  unfold edited awaiting
  rw [if_neg (Nat.pos_iff_ne_zero.mp opened)]
  exact ⟨⟨rfl, rfl, rfl, rfl⟩, Nat.le_refl _, fun _ => rfl⟩

theorem deepened_batchOpened (sheet : Sheet) : Deepened true sheet [] sheet.batchOpened :=
  ⟨⟨rfl, rfl, rfl, rfl⟩, Nat.le_succ _, fun none => by cases none⟩

/-- A batch that is closed while another one is open tells nothing. -/
theorem widened_batchClosed (more : sheet.openBatches - 1 ≠ 0) : sheet.due = [] ∧ Widened sheet [] sheet.batchClosed := by
  refine ⟨if_neg more, rfl, rfl, rfl, ?_⟩
  simp only [batchClosed, if_neg more]
  rfl

/-- A batch in another batch leaves what was written in it to the other. -/
theorem Deepened.batch {opens : Bool} (written : Deepened opens sheet.batchOpened areas after)
    (opened : 0 < sheet.openBatches) : after.due = [] ∧ Deepened opens sheet areas after.batchClosed := by
  have deeper : sheet.openBatches + 1 ≤ after.openBatches := written.openBatches_le
  obtain ⟨silent, closed⟩ := widened_batchClosed (show after.openBatches - 1 ≠ 0 by omega)
  have widened := (written.toWidened.trans closed)
  rw [List.append_nil] at widened
  refine ⟨silent, ⟨widened.rows_eq, widened.columns_eq, widened.isDisposed_eq, widened.pending_eq⟩,
    Nat.le_sub_of_add_le deeper, ?_⟩
  intro none
  exact Nat.sub_eq_of_eq_add (written.openBatches_eq none)

/-- The area that a request names to be written, if it is accepted. -/
def editAreas (sheet : Sheet) (request : SheetRequest) : List (Range Int) :=
  match sheet.edit? request with
  | some (.ok _) => request.target?.toList
  | _ => []

theorem editAreas_of_ok {request : SheetRequest} {edit : Edit} (accepted : sheet.edit? request = some (.ok edit)) :
    sheet.editAreas request = [edit.area] := by
  unfold editAreas
  rw [accepted, (edit?_target accepted).1]
  rfl

theorem editAreas_of_error {request : SheetRequest} {error : SheetError}
    (refused : sheet.edit? request = some (.error error)) : sheet.editAreas request = [] := by
  unfold editAreas
  rw [refused]

/-- What may be written stays as it was. -/
theorem Widened.admits (written : Widened sheet areas after) :
    after.requireLive = sheet.requireLive ∧ after.inside = sheet.inside := by
  constructor
  · unfold requireLive
    rw [written.isDisposed_eq]
  · funext address
    unfold inside area
    rw [written.rows_eq, written.columns_eq]

theorem Widened.writable (written : Widened sheet areas after) (address : Address Number) :
    after.writable address = sheet.writable address := by
  unfold Sheet.writable
  rw [written.admits.1, written.admits.2]

theorem Widened.writableRange (written : Widened sheet areas after) (range : Range Number) :
    after.writableRange range = sheet.writableRange range := by
  unfold Sheet.writableRange
  rw [written.admits.1, written.admits.2]

/-- What was written before does not matter to what an edit writes. -/
theorem Widened.editAreas (written : Widened sheet areas after) (request : SheetRequest) :
    after.editAreas request = sheet.editAreas request := by
  cases request with
  | setValue address | setStyle address | setFormat address | setRichText address | setCell address =>
    simp only [Sheet.editAreas, edit?, editCell, written.writable]
    cases sheet.writable address <;> rfl
  | clearRange range | clearValues range | clearStyles range | clearFormats range | fillWithCell range =>
    simp only [Sheet.editAreas, edit?, editRange, written.writableRange]
    cases sheet.writableRange range <;> rfl
  | copyRange source destination =>
    simp only [Sheet.editAreas, edit?, copyEdit, written.writableRange]
    cases sheet.writableRange source with
    | error error => rfl
    | ok cells => cases sheet.writableRange (source.moved source.topLeft destination) <;> rfl
  | _ => rfl

/-- The areas that are written when cells are put until one has not been made. -/
def putAreas : List (Address Int × Except SheetError (Option Cell)) → List (Range Int)
  | [] => []
  | (_, .error _) :: _ => []
  | (address, .ok _) :: rest => .single address :: putAreas rest

theorem deepened_putAll (opened : 0 < sheet.openBatches) (cells : List (Address Int × Except SheetError (Option Cell))) :
    Deepened false sheet (putAreas cells) (sheet.putAll cells).2 := by
  induction cells generalizing sheet with
  | nil => exact .refl _ sheet
  | cons first rest ih =>
    obtain ⟨address, made⟩ := first
    cases made with
    | error error => exact .refl _ sheet
    | ok cell => exact (deepened_edited opened (sheet.putEdit address cell)).trans (ih (by simpa using opened))

/-- The areas that a fill of a range writes. -/
def fillAreas (sheet : Sheet) (source : Address Number) (target : Range Number) (generator : Option Generator) :
    List (Range Int) :=
  match sheet.writableRange target with
  | .error _ => []
  | .ok cells => putAreas ((sheet.filling? source cells target generator).getD [])

section filling
variable {source : Address Number} {target : Range Number} {generator : Option Generator}

theorem fillAreas_of_error {error : SheetError} (refused : sheet.writableRange target = .error error) :
    sheet.fillAreas source target generator = [] := by rw [fillAreas, refused]

theorem fillAreas_of_ok {cells : Range Int} (passed : sheet.writableRange target = .ok cells) :
    sheet.fillAreas source target generator = putAreas ((sheet.filling? source cells target generator).getD []) := by
  rw [fillAreas, passed]

end filling

end Sheet

/-- The request writes one area, or opens or closes a batch. -/
def SheetRequest.isDirect : SheetRequest → Bool
  | .setValue .. | .setStyle .. | .setFormat .. | .setRichText .. | .setCell .. => true
  | .clearRange .. | .clearValues .. | .clearStyles .. | .clearFormats .. | .fillWithCell .. => true
  | .copyRange .. | .beginBatch | .endBatch => true
  | _ => false

mutual

/-- The request writes cells, opens batches, or fails, and does nothing else. -/
def SheetRequest.writes : SheetRequest → Bool
  | .setValue .. | .setStyle .. | .setFormat .. | .setRichText .. | .setCell .. => true
  | .clearRange .. | .clearValues .. | .clearStyles .. | .clearFormats .. | .fillWithCell .. => true
  | .copyRange .. | .fillRange .. | .beginBatch | .giveUp .. => true
  | .batch requests | .attempt requests => allWrite requests
  | _ => false

/-- All of the requests do. -/
def SheetRequest.allWrite : List SheetRequest → Bool
  | [] => true
  | request :: rest => request.writes && allWrite rest

end

mutual

/-- The request may open a batch without closing it. -/
def SheetRequest.opens : SheetRequest → Bool
  | .beginBatch => true
  | .batch requests | .attempt requests => anyOpens requests
  | _ => false

/-- One of the requests may. -/
def SheetRequest.anyOpens : List SheetRequest → Bool
  | [] => false
  | request :: rest => request.opens || anyOpens rest

end

namespace Session
variable (publish : Publisher) (close : Session Unit)

mutual

/-- The areas that a request writes, up to where it fails. -/
def touched (request : SheetRequest) (world : SheetWorld) : List (Range Int) :=
  match request with
  | .fillRange source target generator => world.state.fillAreas source target generator
  | .batch requests =>
    if world.state.isDisposed then [] else touchedAll requests { world with state := world.state.batchOpened }
  | .attempt requests => touchedAll requests world
  | request => world.state.editAreas request

/-- The areas that requests write until one fails. -/
def touchedAll (requests : List SheetRequest) (world : SheetWorld) : List (Range Int) :=
  match requests with
  | [] => []
  | request :: rest =>
    touched request world ++
      match (perform publish close request).outcome world with
      | (.ok _, after) => touchedAll rest after
      | (.error _, _) => []

end

/-- The areas that requests write that are made one after another, whether they fail or not. -/
def touchedInTurn : List SheetRequest → SheetWorld → List (Range Int)
  | [], _ => []
  | request :: rest, world =>
    touched publish close request world ++ touchedInTurn rest ((perform publish close request).leaves world)

variable {publish close} {world : SheetWorld}

/-- A computation only changes the sheet, and it does so by writing some areas in batches. -/
def Waits {α : Type} (run : Session α) (opens : Bool) (areas : List (Range Int)) (world : SheetWorld) : Prop :=
  ∃ result after, run.outcome world = (result, { world with state := after }) ∧ world.state.Deepened opens areas after

theorem waits_error {α : Type} {run : Session α} {error : SheetError} {opens : Bool}
    (failed : run.outcome world = (.error error, world)) : Waits run opens [] world :=
  ⟨_, _, failed, .refl _ _⟩

theorem waits_edit {request : SheetRequest} {result : Except SheetError Edit} (opened : 0 < world.state.openBatches)
    (asked : world.state.edit? request = some result) :
    Waits (perform publish close request) false (world.state.editAreas request) world := by
  have settled : (perform publish close request).outcome world = _ := outcome_perform_edit asked
  cases result with
  | error error =>
    rw [Sheet.editAreas_of_error asked]
    exact waits_error settled
  | ok edit =>
    rw [Sheet.editAreas_of_ok asked]
    exact ⟨_, _, settled.trans (outcome_settle_of_open opened edit), Sheet.deepened_edited opened edit⟩

theorem waits_writeAll {cells : List (Address Int × Except SheetError (Option Cell))}
    (opened : 0 < world.state.openBatches) (live : world.state.isDisposed = false) :
    Waits (writeAll publish cells) false (Sheet.putAreas cells) world := by
  have written : Sheet.Deepened false world.state.batchOpened (Sheet.putAreas cells) (world.state.batchOpened.putAll cells).2 :=
    Sheet.deepened_putAll (Nat.succ_pos _) cells
  obtain ⟨silent, deepened⟩ := written.batch opened
  have done : (writeAll publish cells).outcome world = _ := outcome_writeAll cells live (Prod.eta _).symm
  rw [silent] at done
  exact ⟨_, _, done, deepened⟩

theorem waits_fillRange (opened : 0 < world.state.openBatches) (source : Address Number) (target : Range Number)
    (generator : Option Generator) :
    Waits (fillRange publish source target generator) false (world.state.fillAreas source target generator) world := by
  cases passed : world.state.writableRange target with
  | error error =>
    rw [Sheet.fillAreas_of_error passed]
    exact waits_error (outcome_check_error passed)
  | ok cells =>
    have live := (Sheet.writableRange_ok_iff.mp passed).1
    unfold Waits
    rw [outcome_fillRange passed, Sheet.fillAreas_of_ok passed]
    cases world.state.filling? source cells target generator with
    | none => exact ⟨_, _, rfl, .refl _ _⟩
    | some made => exact waits_writeAll opened live

theorem waits_beginBatch : Waits beginBatch true [] world := by
  cases live : world.state.requireLive with
  | error error => exact waits_error (outcome_check_error live)
  | ok _ => exact ⟨_, _, (outcome_check_ok live).trans rfl, world.state.deepened_batchOpened⟩

mutual

/-- A request to write, made while a batch is open, tells nothing: the areas that it writes wait. -/
theorem waits_perform (request : SheetRequest) (writes : request.writes = true) (world : SheetWorld)
    (opened : 0 < world.state.openBatches) :
    Waits (perform publish close request) request.opens (touched publish close request world) world := by
  cases request with
  | setValue | setStyle | setFormat | setRichText | setCell => exact waits_edit opened rfl
  | clearRange | clearValues | clearStyles | clearFormats | fillWithCell => exact waits_edit opened rfl
  | copyRange => exact waits_edit opened rfl
  | fillRange source target generator => exact waits_fillRange opened source target generator
  | beginBatch => exact waits_beginBatch
  | giveUp error => exact waits_error rfl
  | batch requests =>
    unfold touched
    by_cases ended : world.state.isDisposed = true
    · rw [if_pos ended]
      have refused : world.state.requireLive = .error .disposed := by simp [Sheet.requireLive, ended]
      have failed : beginBatch.outcome world = (.error .disposed, world) := outcome_check_error refused
      exact waits_error (Run.outcome_bind_error failed)
    · rw [if_neg ended]
      obtain ⟨result, after, done, written⟩ :=
        waits_performAll requests writes { world with state := world.state.batchOpened } (Nat.succ_pos _)
      obtain ⟨silent, deepened⟩ := written.batch opened
      have closed : (batch publish (performAll publish close requests)).outcome world = _ :=
        outcome_batch (by simpa using ended) done
      rw [silent] at closed
      exact ⟨_, _, closed, deepened⟩
  | attempt requests =>
    obtain ⟨result, after, done, written⟩ := waits_performAll requests writes world opened
    refine ⟨.ok (), after, (Run.outcome_bind_ok (Run.outcome_attempt _)).trans ?_, written⟩
    rw [done]
    rfl
  | _ => cases writes

theorem waits_performAll (requests : List SheetRequest) (write : SheetRequest.allWrite requests = true)
    (world : SheetWorld) (opened : 0 < world.state.openBatches) :
    Waits (performAll publish close requests) (SheetRequest.anyOpens requests)
      (touchedAll publish close requests world) world := by
  cases requests with
  | nil => exact ⟨_, _, rfl, .refl _ _⟩
  | cons request rest =>
    simp only [SheetRequest.allWrite, Bool.and_eq_true] at write
    obtain ⟨result, after, done, written⟩ := waits_perform request write.1 world opened
    unfold touchedAll SheetRequest.anyOpens
    rw [done]
    cases result with
    | error error =>
      rw [List.append_nil]
      exact ⟨_, _, Run.outcome_bind_error done, written.mono fun none => (Bool.or_eq_false_iff.mp none).1⟩
    | ok answer =>
      obtain ⟨result, last, remaining, others⟩ := waits_performAll rest write.2 { world with state := after }
        (Nat.lt_of_lt_of_le opened written.openBatches_le)
      exact ⟨_, _, (Run.outcome_bind_ok done).trans remaining, written.trans others⟩

end

end Session

end Spreadsheet
