import Spreadsheet.Proofs.Sheet.Moving
import Spreadsheet.Proofs.Sheet.SmartFill

/-! A request that is refused changes nothing: it checks all that it is given before it does anything. Requests to move
and to copy regions are different. They take regions away first, and only then look at where the regions are to go. -/
namespace Spreadsheet

/-- The request is one operation, which calls nothing that is given to it and does not end the sheet. -/
def SheetRequest.isPlain : SheetRequest → Bool
  | .fillRange _ _ generator | .smartFill _ _ generator => generator.isNone
  | .batch _ | .attempt _ | .giveUp _ | .dispose => false
  | _ => true

/-- Regions that are to be moved or copied go from a range of whole coordinates to another one. Every other request finds
out by itself whether it can be done. -/
def SheetRequest.IsWhole (sheet : Sheet) : SheetRequest → Prop
  | .moveMerges source destination => sheet.merges.inside source = [] ∨
      (∃ wide, source.checked = .ok wide) ∧ ∃ cell, destination.toInt? = some cell ∧ (Range.single cell).IsSmall
  | .replicateMerges source target _ => sheet.merges.inside source = [] ∨
      ∃ wide goal, source.checked = .ok wide ∧ target.checked = .ok goal ∧ wide.IsSmall ∧ goal.IsSmall
  | _ => True

namespace Session
open Run Sheet
variable {α β : Type} {rows columns : Nat} {publish : Publisher} {close : Session Unit} {world : SheetWorld}

theorem atomic_check {f : Sheet → Except SheetError α} {rest : α → Session β}
    (passed : ∀ value, f world.state = .ok value → Atomic (rest value) world) : Atomic (check f >>= rest) world := by
  cases found : f world.state with
  | error error => exact .inl ⟨error, outcome_check_error found⟩
  | ok value => exact (passed value found).of_outcome (outcome_check_ok found)

/-- After the sheet is disposed of, everything is refused. -/
theorem atomic_of_live {rest : Unit → Session α}
    (atomic : world.state.isDisposed = false → Atomic (check Sheet.requireLive >>= rest) world) :
    Atomic (check Sheet.requireLive >>= rest) world := by
  cases passed : world.state.requireLive with
  | error error => exact .inl ⟨error, outcome_check_error passed⟩
  | ok answer => exact atomic (requireLive_ok_iff.mp passed)

theorem succeeds_modifySheet (f : Sheet → Sheet) : Succeeds (modifySheet f) world fun _ state => state = f world.state :=
  ⟨(), f world.state, [], rfl, rfl⟩

theorem atomic_beginBatch : Atomic beginBatch world := atomic_check fun _ _ => (succeeds_modifySheet _).atomic

variable (tells : OnlyTells publish) (reads : world.feed.OnlyRead)
include tells reads

/-- Subscribers may be told at any time. -/
theorem succeeds_publish (event : Change Int) (state : Sheet) (trace : List (Occurrence (Change Int) Sheet)) :
    Succeeds (publish event) { world with state, trace } fun _ _ => True :=
  (tells { world with state, trace } event reads).mono fun _ _ _ => trivial

/-- Whatever is done first, to tell of it changes nothing. -/
theorem succeeds_tell {run : Session Unit} {events : List (Change Int)} {after : Sheet}
    (done : run.outcome world = (events.forM publish).outcome { world with state := after }) :
    Succeeds run world fun _ state => state = after := by
  let next : SheetWorld := { world with state := after }
  have readsNext : next.feed.OnlyRead := reads
  exact Succeeds.of_outcome done (succeeds_forM tells readsNext events)

theorem atomic_edit {request : SheetRequest} {result : Except SheetError Edit}
    (asked : world.state.edit? request = some result) : Atomic (perform publish close request) world := by
  cases result with
  | error error => exact .inl ⟨error, (outcome_perform_edit asked).trans (outcome_settle_error error)⟩
  | ok edit => exact (succeeds_tell tells reads ((outcome_perform_edit asked).trans (outcome_settle_ok edit))).atomic

theorem atomic_fillRange (source : Address Number) (target : Range Number) :
    Atomic (fillRange publish source target none) world := by
  unfold fillRange
  refine atomic_check fun cells passed => ?_
  refine Atomic.of_outcome ?_ (outcome_bind_ok outcome_sheet)
  have live := (writableRange_ok_iff.mp passed).1
  cases world.state.source? source with
  | none => exact atomic_pure ()
  | some cell => exact (succeeds_writeAll tells reads live (by simp)).atomic

theorem atomic_addMerge (range : Range Number) : Atomic (addMerge publish range) world := by
  cases made : world.state.merges.merge range with
  | error error => exact .inl ⟨error, outcome_addMerge_of_error made⟩
  | ok accepted =>
    refine .inr (Succeeds.of_outcome (outcome_addMerge made) ?_)
    exact (succeeds_publish tells reads _ _ _).bind fun _ _ _ _ => succeeds_pure trivial

theorem atomic_merge (range : Range Number) : Atomic (merge publish range) world :=
  atomic_check fun _ _ => atomic_addMerge tells reads range

theorem atomic_unmerge (address : Address Number) : Atomic (unmerge publish address) world := by
  refine atomic_check fun _ _ => ?_
  refine Atomic.of_outcome ?_ (outcome_bind_ok outcome_sheet)
  refine (succeeds_modifySheet _).bind_atomic ?_
  intro _ state news _
  have told (removed : Option MergeRegion) : Succeeds (removed.forM fun region => publish (.unmerge region.cells))
      { world with state, trace := news ++ world.trace } fun _ _ => True := by
    cases removed with
    | none => exact succeeds_pure trivial
    | some region => exact succeeds_publish tells reads _ _ _
  exact (told _).bind fun _ _ _ _ => succeeds_pure trivial

theorem atomic_unmergeInRange (range : Range Number) : Atomic (unmergeInRange publish range) world :=
  atomic_of_live fun live => (succeeds_unmergeInRange tells reads live range).atomic

theorem atomic_endBatch : Atomic (endBatch publish) world :=
  (succeeds_tell tells reads (outcome_endBatch world)).atomic

theorem atomic_clear : Atomic (clear publish) world := by
  refine atomic_check fun _ _ => (succeeds_modifySheet _).bind_atomic ?_
  intro _ _ _ _
  exact succeeds_publish tells reads _ _ _

theorem atomic_smartFill (sound : world.state.Sound rows columns) (source destination : Range Number) :
    Atomic (smartFill publish source destination none) world := by
  unfold smartFill
  refine atomic_check fun wide first => ?_
  cases FillDirection.toward? source destination with
  | none => exact atomic_pure _
  | some aim =>
    obtain ⟨direction, strip⟩ := aim
    refine atomic_lift fun narrow _ => ?_
    refine Atomic.of_outcome ?_ (outcome_bind_ok outcome_sheet)
    refine atomic_check fun goal second => ?_
    exact (succeeds_carryOn tells reads sound first second (fun _ => exists_made_of_mem_continued) _).atomic

theorem atomic_replicateMerges (sound : world.state.Sound rows columns) {source target : Range Number} {vertical : Bool}
    (whole : (SheetRequest.replicateMerges source target vertical).IsWhole world.state) :
    Atomic (replicateMerges publish source target vertical) world := by
  rcases whole with idle | ⟨wide, goal, first, second, small, short⟩
  · refine atomic_check fun _ _ => ?_
    refine Atomic.of_outcome ?_ (outcome_bind_ok outcome_sheet)
    rw [idle]
    exact atomic_pure []
  · refine atomic_of_live fun live => ?_
    exact (succeeds_replicateMerges tells reads sound live first second small short vertical).atomic

theorem atomic_moveMerges (sound : world.state.Sound rows columns) {source : Range Number} {destination : Address Number}
    (whole : (SheetRequest.moveMerges source destination).IsWhole world.state) :
    Atomic (moveMerges publish source destination) world := by
  rcases whole with idle | ⟨⟨wide, accepted⟩, cell, arrives, near⟩
  · refine atomic_check fun _ _ => ?_
    refine Atomic.of_outcome ?_ (outcome_bind_ok outcome_sheet)
    have last : Atomic (Run.lift (A1.ofRange source) >>= fun _ => pure ([] : List MergeRegion)) world :=
      atomic_lift fun _ _ => atomic_pure _
    rw [idle]
    exact last.of_outcome rfl
  · refine atomic_of_live fun live => ?_
    simp only [Range.IsSmall, Range.single] at near
    exact (succeeds_moveMerges tells reads sound live accepted arrives (by omega) (by omega)).atomic

/-- Every plain request is refused before anything has happened, or succeeds. -/
theorem atomic_perform (sound : world.state.Sound rows columns) {request : SheetRequest} (plain : request.isPlain = true)
    (whole : request.IsWhole world.state) : Atomic (perform publish close request) world := by
  cases request with
  | setValue | setStyle | setFormat | setRichText | setCell => exact atomic_edit tells reads rfl
  | clearRange | clearValues | clearStyles | clearFormats | fillWithCell => exact atomic_edit tells reads rfl
  | copyRange => exact atomic_edit tells reads rfl
  | fillRange source target generator =>
    obtain rfl : generator = none := Option.isNone_iff_eq_none.mp plain
    exact atomic_fillRange tells reads source target
  | smartFill source destination generator =>
    obtain rfl : generator = none := Option.isNone_iff_eq_none.mp plain
    exact (atomic_smartFill tells reads sound source destination).bind_pure ()
  | merge range => exact (atomic_merge tells reads range).bind_pure ()
  | unmerge address => exact (atomic_unmerge tells reads address).bind_pure ()
  | unmergeInRange range => exact (atomic_unmergeInRange tells reads range).bind_pure ()
  | moveMerges source destination => exact (atomic_moveMerges tells reads sound whole).bind_pure ()
  | replicateMerges source target vertical => exact (atomic_replicateMerges tells reads sound whole).bind_pure ()
  | clear => exact atomic_clear tells reads
  | beginBatch => exact atomic_beginBatch
  | endBatch => exact atomic_endBatch tells reads
  | batch | attempt | giveUp | dispose => cases plain

end Session

namespace SheetWorld
variable {world after : SheetWorld}

/-- A request that fails leaves everything as it was, and has told nothing, unless it is to move or to copy regions and is
given other coordinates than whole ones. -/
theorem Reachable.rejected_unchanged (reachable : Reachable world) (reads : world.feed.OnlyRead) (fuel : Nat)
    {request : SheetRequest} (plain : request.isPlain = true) (whole : request.IsWhole world.state) {error : SheetError}
    (failed : (sheetHost.act fuel (.request request)).outcome world = (.error error, after)) : after = world := by
  obtain ⟨_, _, sound, _⟩ := reachable.sound
  cases fuel with
  | zero =>
    cases failed
    rfl
  | succ fuel =>
    exact (Session.atomic_perform (Run.onlyTells_emit _ _) reads sound plain whole).eq_of_error failed

/-- A range above the sheet has no regions to be moved, and is refused only at the end, also while a batch is open. -/
theorem rejected_unchanged_in_batch :
    let start : SheetWorld := { state := { rows := maxRows, columns := maxColumns } }
    let joined := (sheetHost.act 3 (.request (.merge ⟨0, 0, 1, 1⟩))).leaves start
    let opened := (sheetHost.act 3 (.request .beginBatch)).leaves joined
    let written := (sheetHost.act 3 (.request (.setValue ⟨0, 0⟩ (some (.number 1))))).leaves opened
    let world := (sheetHost.act 3 (.subscribe "reader" (fun _ => []) none)).leaves written
    ∃ error after, (sheetHost.act 3 (.request (.moveMerges ⟨-3, 0, -2, 0⟩ ⟨5, 5⟩))).outcome world = (.error error, after) ∧
      after = world := by
  intro start joined opened written world
  have begin : Reachable start := .created (.record []) {} [] rfl rfl
  have reachable : Reachable world := (((begin.acted 3 _).acted 3 _).acted 3 _).acted 3 _
  have alone : written.feed.subscriptions = [] := List.isEmpty_iff.mp (by decide +kernel)
  have reads : world.feed.OnlyRead :=
    Feed.OnlyRead.subscribe (Feed.onlyRead_of_nil alone) sheetHost 2 "reader" fun _ => rfl
  have whole : (SheetRequest.moveMerges ⟨-3, 0, -2, 0⟩ ⟨5, 5⟩).IsWhole world.state :=
    .inl (List.isEmpty_iff.mp (by decide +kernel))
  have refused : ((sheetHost.act 3 (.request (.moveMerges ⟨-3, 0, -2, 0⟩ ⟨5, 5⟩))).outcome world).1.isOk = false := by
    decide +kernel
  cases failed : (sheetHost.act 3 (.request (.moveMerges ⟨-3, 0, -2, 0⟩ ⟨5, 5⟩))).outcome world with
  | mk result after =>
    cases result with
    | error error => exact ⟨error, after, rfl, reachable.rejected_unchanged reads 3 rfl whole failed⟩
    | ok value =>
      rw [failed] at refused
      cases refused

/-- A region that is to move by half a row is taken away, and then the move fails. -/
theorem not_unchanged_with_fraction :
    let start : SheetWorld := { state := { rows := maxRows, columns := maxColumns } }
    let world := (sheetHost.act 3 (.request (.merge ⟨0, 0, 1, 1⟩))).leaves start
    let outcome := (sheetHost.act 3 (.request (.moveMerges ⟨0, 0, 1, 1⟩ ⟨.ofRatio false 1 2, 0⟩))).outcome world
    Reachable world ∧ world.feed.OnlyRead ∧ outcome.1.isOk = false ∧ world.state.regions.length = 1 ∧
      outcome.2.state.regions = [] := by
  intro start world outcome
  have begin : Reachable start := .created (.record []) {} [] rfl rfl
  have alone : world.feed.subscriptions = [] := List.isEmpty_iff.mp (by decide +kernel)
  exact ⟨begin.acted 3 _, Feed.onlyRead_of_nil alone, by decide +kernel, by decide +kernel,
    List.isEmpty_iff.mp (by decide +kernel)⟩

end SheetWorld
end Spreadsheet
