import Spreadsheet.Proofs.Sheet.Coalescing
import Spreadsheet.Proofs.Sheet.Contents
import Spreadsheet.Proofs.Sheet.Regions

/-! Batches in which no region comes or goes. Whatever else is asked for there, fills by a pattern included, nothing is told
before the last of them is closed, and then one event covers all that has changed. A region that comes or goes is told at
once, so for the others this is not so. -/
namespace Spreadsheet

mutual

/-- Among these regions none comes or goes by the request, and they are not cleared away: cells are written, batches are
opened, or there is nothing to do. -/
def SheetRequest.spares (merges : MergeRegistry) : SheetRequest → Bool
  | .merge range => !(merges.merge range).isOk
  | .unmerge address => (merges.at? address).isNone
  | .unmergeInRange range => (merges.inRange range).isEmpty
  | .smartFill source _ _ | .moveMerges source _ | .replicateMerges source _ _ => (merges.inside source).isEmpty
  | .batch requests | .attempt requests => allSpare merges requests
  | .clear | .endBatch | .dispose => false
  | _ => true

/-- That is so for all of the requests. -/
def SheetRequest.allSpare (merges : MergeRegistry) : List SheetRequest → Bool
  | [] => true
  | request :: rest => request.spares merges && allSpare merges rest

end

namespace Sheet
variable {sheet after last : Sheet} {areas others : List (Range Int)}

/-- What a sheet holds has changed in some areas at most, and its regions are as they were. -/
structure Confined (sheet : Sheet) (areas : List (Range Int)) (after : Sheet) : Prop where
  equality_eq : after.equality = sheet.equality
  merges_eq : after.merges = sheet.merges
  elsewhere : ∀ cell, (∀ area ∈ areas, area.contains cell = false) → after.contents cell = sheet.contents cell
  idle : areas = [] → after.grid = sheet.grid ∧ after.writings = sheet.writings

theorem Confined.refl (sheet : Sheet) : Confined sheet [] sheet := ⟨rfl, rfl, fun _ _ => rfl, fun _ => ⟨rfl, rfl⟩⟩

theorem Confined.trans (first : Confined sheet areas after) (second : Confined after others last) :
    Confined sheet (areas ++ others) last where
  equality_eq := second.equality_eq.trans first.equality_eq
  merges_eq := second.merges_eq.trans first.merges_eq
  elsewhere cell outside := by
    rw [second.elsewhere cell fun area member => outside area (List.mem_append_right _ member)]
    exact first.elsewhere cell fun area member => outside area (List.mem_append_left _ member)
  idle none := by
    obtain ⟨rfl, rfl⟩ := List.append_eq_nil_iff.mp none
    exact ⟨(second.idle rfl).1.trans (first.idle rfl).1, (second.idle rfl).2.trans (first.idle rfl).2⟩

theorem confined_edited {edit : Edit} (edited : Grid.Edited edit.area sheet.grid edit.grid) :
    Confined sheet [edit.area] (sheet.edited edit) where
  equality_eq := by
    unfold Sheet.edited awaiting
    split <;> rfl
  merges_eq := merges_edited edit
  elsewhere cell outside := by
    have same := edited.holding_eq (outside edit.area List.mem_cons_self)
    rw [contents_edited, contents]
    exact congrArg Holding.plain same
  idle none := by cases none

theorem confined_batchOpened (sheet : Sheet) : Confined sheet [] sheet.batchOpened :=
  ⟨rfl, rfl, fun _ _ => rfl, fun _ => ⟨rfl, rfl⟩⟩

theorem confined_batchClosed (sheet : Sheet) : Confined sheet [] sheet.batchClosed :=
  ⟨rfl, rfl, fun _ _ => rfl, fun _ => ⟨rfl, rfl⟩⟩

theorem confined_putAll (cells : List (Address Int × Except SheetError (Option Cell))) :
    Confined sheet (putAreas cells) (sheet.putAll cells).2 := by
  induction cells generalizing sheet with
  | nil => exact .refl sheet
  | cons first rest ih =>
    obtain ⟨address, made⟩ := first
    cases made with
    | error error => exact .refl sheet
    | ok cell =>
      have put : Confined sheet [.single address] (sheet.edited (sheet.putEdit address cell)) :=
        @confined_edited sheet (sheet.putEdit address cell) (Grid.Edited.refl.putCell Range.contains_single _)
      exact put.trans ih

/-- A body between the opening and the closing of a batch. -/
theorem Confined.batch (body : Confined sheet.batchOpened areas after) : Confined sheet areas after.batchClosed := by
  have whole := ((confined_batchOpened sheet).trans body).trans (confined_batchClosed after)
  rwa [List.nil_append, List.append_nil] at whole

/-- A batch in which nothing has been written leaves nothing behind. -/
theorem batchClosed_eq (written : sheet.batchOpened.Widened [] after) (confined : Confined sheet [] after)
    (closed : sheet.openBatches = 0) (waits : sheet.pending = none) (only : after.openBatches - 1 = 0) :
    after.batchClosed = sheet := by
  obtain ⟨rows, columns, live, _⟩ := written
  obtain ⟨equality, merges, _, idle⟩ := confined
  obtain ⟨grid, writings⟩ := idle rfl
  cases sheet
  cases after
  simp_all [batchClosed, batchOpened]

theorem Sound.pending_eq_none {rows columns : Nat} (sound : sheet.Sound rows columns) (closed : sheet.openBatches = 0) :
    sheet.pending = none := by
  cases waiting : sheet.pending with
  | none => rfl
  | some range => exact absurd closed (Nat.pos_iff_ne_zero.mp (sound.waiting range waiting).1)

/-- Dimensions stay within what may be. -/
theorem Widened.bounded (written : Widened sheet areas after) (bounded : sheet.Bounded) : after.Bounded :=
  ⟨written.rows_eq ▸ bounded.rows, written.columns_eq ▸ bounded.columns⟩

end Sheet

namespace Session
variable {publish : Publisher} {close : Session Unit} {world : SheetWorld} {merges : MergeRegistry} {α β : Type}

/-- A computation only changes the sheet: it writes some areas in batches, and leaves the rest and the regions alone. -/
def Hushes (run : Session α) (opens : Bool) (world : SheetWorld) : Prop :=
  ∃ areas result after, run.outcome world = (result, { world with state := after }) ∧
    world.state.Deepened opens areas after ∧ world.state.Confined areas after

theorem hushes_of_outcome {run : Session α} {result : Except SheetError α} {opens : Bool}
    (idle : run.outcome world = (result, world)) : Hushes run opens world :=
  ⟨[], result, world.state, idle, .refl _ _, .refl _⟩

/-- A computation may go on, if it does so in the same way wherever the first part has led. -/
theorem Hushes.bind {run : Session α} {next : α → Session β} {opens more : Bool} (first : Hushes run opens world)
    (second : ∀ value areas after, world.state.Deepened opens areas after → world.state.Confined areas after →
      Hushes (next value) more { world with state := after }) : Hushes (run >>= next) (opens || more) world := by
  obtain ⟨areas, result, after, done, written, confined⟩ := first
  cases result with
  | error error =>
    have less : Sheet.Deepened (opens || more) world.state areas after :=
      written.mono fun none => (Bool.or_eq_false_iff.mp none).1
    exact ⟨areas, _, after, Run.outcome_bind_error done, less, confined⟩
  | ok value =>
    obtain ⟨others, _, last, rest, deeper, wider⟩ := second value areas after written confined
    exact ⟨_, _, last, (Run.outcome_bind_ok done).trans rest, written.trans deeper, confined.trans wider⟩

/-- What is answered makes no difference. -/
theorem Hushes.bind_pure {run : Session α} (hushes : Hushes run false world) (answer : α → β) :
    Hushes (run >>= fun value => pure (answer value)) false world :=
  hushes.bind fun _ _ _ _ _ => hushes_of_outcome (Run.outcome_pure _)

/-- What leaves the world as it is may come first. -/
theorem hushes_read {run : Session α} {next : α → Session β} {value : α} {opens : Bool}
    (reads : run.outcome world = (.ok value, world)) (rest : Hushes (next value) opens world) :
    Hushes (run >>= next) opens world := by
  unfold Hushes
  rw [Run.outcome_bind_ok reads]
  exact rest

theorem hushes_sheet {rest : Sheet → Session β} (reads : Hushes (rest world.state) false world) :
    Hushes (sheet >>= rest) false world := hushes_read outcome_sheet reads

theorem hushes_lift {result : Except SheetError α} {rest : α → Session β}
    (passed : ∀ value, result = .ok value → Hushes (rest value) false world) :
    Hushes (Run.lift result >>= rest) false world := by
  cases found : result with
  | error error => exact hushes_of_outcome (Run.outcome_bind_error (Run.outcome_lift _))
  | ok value => exact hushes_read (Run.outcome_lift _) (passed value found)

/-- A check changes nothing, whether it passes or fails. -/
theorem hushes_check {f : Sheet → Except SheetError α} {rest : α → Session β}
    (passed : ∀ value, f world.state = .ok value → Hushes (rest value) false world) :
    Hushes (check f >>= rest) false world := by
  cases found : f world.state with
  | error error => exact hushes_of_outcome (outcome_check_error found)
  | ok value => exact hushes_read ((outcome_check f).trans (by rw [found])) (passed value found)

theorem hushes_edit {request : SheetRequest} {result : Except SheetError Edit} (opened : 0 < world.state.openBatches)
    (bounded : world.state.Bounded) (asked : world.state.edit? request = some result) :
    Hushes (perform publish close request) false world := by
  have settled : (perform publish close request).outcome world = _ := outcome_perform_edit asked
  cases result with
  | error error => exact hushes_of_outcome settled
  | ok edit =>
    have edited := (Sheet.edit?_fits bounded asked).edited
    exact ⟨_, _, _, settled.trans (outcome_settle_of_open opened edit), Sheet.deepened_edited opened edit,
      Sheet.confined_edited edited⟩

/-- A batch in another one leaves it to the other to tell what was written. -/
theorem hushes_batch {body : Session α} {opens : Bool} (opened : 0 < world.state.openBatches)
    (hushes : Hushes body opens { world with state := world.state.batchOpened }) :
    Hushes (batch publish body) opens world := by
  cases ended : world.state.isDisposed with
  | true =>
    have refused : world.state.requireLive = .error .disposed := by simp [Sheet.requireLive, ended]
    have failed : beginBatch.outcome world = (.error .disposed, world) := outcome_check_error refused
    exact hushes_of_outcome (Run.outcome_bind_error failed)
  | false =>
    obtain ⟨areas, result, after, done, written, confined⟩ := hushes
    obtain ⟨silent, deepened⟩ := written.batch opened
    have closed : (batch publish body).outcome world = _ := outcome_batch ended done
    rw [silent] at closed
    exact ⟨areas, _, _, closed, deepened, confined.batch⟩

theorem hushes_writeAll {cells : List (Address Int × Except SheetError (Option Cell))}
    (opened : 0 < world.state.openBatches) : Hushes (writeAll publish cells) false world := by
  rw [writeAll_eq]
  exact hushes_batch opened
    ⟨_, _, _, outcome_forM_put cells (Nat.succ_pos _), Sheet.deepened_putAll (Nat.succ_pos _) cells,
      Sheet.confined_putAll cells⟩

theorem hushes_fillRange (opened : 0 < world.state.openBatches) (source : Address Number) (target : Range Number)
    (generator : Option Generator) : Hushes (fillRange publish source target generator) false world := by
  refine hushes_check fun cells _ => hushes_sheet ?_
  dsimp only
  split
  · exact hushes_writeAll opened
  · exact hushes_writeAll opened
  · exact hushes_of_outcome (Run.outcome_pure _)

/-- Without regions inside the source nothing is copied along. -/
theorem hushes_replicateMerges {source : Range Number} (none : world.state.merges.inside source = [])
    (target : Range Number) (vertical : Bool) : Hushes (replicateMerges publish source target vertical) false world := by
  refine hushes_check fun _ _ => hushes_sheet ?_
  rw [none]
  exact hushes_of_outcome (Run.outcome_pure _)

theorem hushes_smartFill (opened : 0 < world.state.openBatches) {source : Range Number}
    (none : world.state.merges.inside source = []) (destination : Range Number) (generator : Option Generator) :
    Hushes (smartFill publish source destination generator) false world := by
  refine hushes_check fun wide _ => ?_
  cases FillDirection.toward? source destination with
  | none => exact hushes_of_outcome (Run.outcome_pure _)
  | some found =>
    refine hushes_lift fun narrow _ => hushes_sheet (hushes_check fun goal _ => ?_)
    refine (hushes_writeAll opened).bind fun _ _ after _ confined => ?_
    refine Hushes.bind_pure (hushes_replicateMerges ?_ _ _) _
    rw [confined.merges_eq, none]

theorem hushes_moveMerges {source : Range Number} (none : world.state.merges.inside source = [])
    (destination : Address Number) : Hushes (moveMerges publish source destination) false world := by
  refine hushes_check fun _ _ => hushes_sheet ?_
  rw [none]
  refine hushes_read (Run.outcome_pure ()) (hushes_sheet (hushes_read (Run.outcome_pure []) ?_))
  exact hushes_lift fun _ _ => hushes_of_outcome (Run.outcome_pure _)

theorem hushes_unmerge {address : Address Number} (none : world.state.merges.at? address = .none) :
    Hushes (unmerge publish address) false world := by
  refine hushes_check fun _ _ => hushes_sheet ?_
  unfold MergeRegistry.unmerge
  rw [none]
  exact hushes_of_outcome (Run.outcome_pure _)

theorem hushes_unmergeInRange {range : Range Number} (none : world.state.merges.inRange range = []) :
    Hushes (unmergeInRange publish range) false world := by
  refine hushes_check fun _ _ => hushes_sheet ?_
  unfold MergeRegistry.unmergeInRange
  rw [none]
  exact hushes_of_outcome (Run.outcome_pure _)

/-- A region that is in the way of another, or is no region at all, is not registered. -/
theorem hushes_merge {range : Range Number} (refused : (world.state.merges.merge range).isOk = false) :
    Hushes (merge publish range) false world := by
  refine hushes_check fun _ _ => hushes_check fun made accepted => ?_
  simp [accepted, Except.isOk, Except.toBool] at refused

theorem hushes_beginBatch : Hushes beginBatch true world := by
  cases live : world.state.requireLive with
  | error error => exact hushes_of_outcome (outcome_check_error live)
  | ok _ =>
    exact ⟨_, _, _, (outcome_check_ok live).trans rfl, world.state.deepened_batchOpened, world.state.confined_batchOpened⟩

/-- A body whose failure is caught is nothing but the body. -/
theorem hushes_attempt {body : Session α} {opens : Bool} (hushes : Hushes body opens world) :
    Hushes (Run.attempt body >>= fun _ => pure ()) opens world := by
  obtain ⟨areas, result, after, done, written, confined⟩ := hushes
  refine ⟨areas, .ok (), after, (Run.outcome_bind_ok (Run.outcome_attempt _)).trans ?_, written, confined⟩
  rw [done]
  rfl

mutual

/-- A request by which no region comes or goes tells nothing while a batch is open. -/
theorem hushes_perform (request : SheetRequest) (world : SheetWorld) (opened : 0 < world.state.openBatches)
    (bounded : world.state.Bounded) (spares : request.spares world.state.merges = true) :
    Hushes (perform publish close request) request.opens world := by
  cases request with
  | setValue | setStyle | setFormat | setRichText | setCell => exact hushes_edit opened bounded rfl
  | clearRange | clearValues | clearStyles | clearFormats | fillWithCell => exact hushes_edit opened bounded rfl
  | copyRange => exact hushes_edit opened bounded rfl
  | fillRange source target generator => exact hushes_fillRange opened source target generator
  | smartFill source destination generator =>
    exact (hushes_smartFill opened (List.isEmpty_iff.mp spares) destination generator).bind_pure _
  | merge range => exact (hushes_merge (Bool.not_eq_true' _ |>.mp spares)).bind_pure _
  | unmerge address => exact (hushes_unmerge (Option.isNone_iff_eq_none.mp spares)).bind_pure _
  | unmergeInRange range => exact (hushes_unmergeInRange (List.isEmpty_iff.mp spares)).bind_pure _
  | moveMerges source destination =>
    exact (hushes_moveMerges (List.isEmpty_iff.mp spares) destination).bind_pure _
  | replicateMerges source target vertical =>
    exact (hushes_replicateMerges (List.isEmpty_iff.mp spares) target vertical).bind_pure _
  | beginBatch => exact hushes_beginBatch
  | giveUp error => exact hushes_of_outcome (Run.outcome_throw error)
  | batch requests =>
    exact hushes_batch opened
      (hushes_performAll requests { world with state := world.state.batchOpened } (Nat.succ_pos _)
        ⟨bounded.rows, bounded.columns⟩ spares)
  | attempt requests =>
    exact hushes_attempt (hushes_performAll requests world opened bounded spares)
  | clear | endBatch | dispose => cases spares

theorem hushes_performAll (requests : List SheetRequest) (world : SheetWorld) (opened : 0 < world.state.openBatches)
    (bounded : world.state.Bounded) (spare : SheetRequest.allSpare world.state.merges requests = true) :
    Hushes (performAll publish close requests) (SheetRequest.anyOpens requests) world := by
  cases requests with
  | nil => exact hushes_of_outcome (Run.outcome_pure _)
  | cons request rest =>
    simp only [SheetRequest.allSpare, Bool.and_eq_true] at spare
    refine (hushes_perform request world opened bounded spare.1).bind fun _ areas after written confined => ?_
    exact hushes_performAll rest { world with state := after } (Nat.lt_of_lt_of_le opened written.openBatches_le)
      (written.toWidened.bounded bounded) (confined.merges_eq ▸ spare.2)

end

end Session

namespace SheetWorld
open Session
variable {publish : Publisher} {close : Session Unit} {world : SheetWorld} {requests : List SheetRequest}

/-- Nor does the closing of one of several batches tell anything. -/
theorem leaves_of_spared (publish : Publisher) (close : Session Unit) {request : SheetRequest}
    (opened : 0 < world.state.openBatches) (bounded : world.state.Bounded)
    (spares : request.spares world.state.merges = true ∨ request = .endBatch)
    (more : request = .endBatch → 1 < world.state.openBatches) :
    ∃ areas after, (perform publish close request).leaves world = { world with state := after } ∧
      world.state.Widened areas after ∧ world.state.Confined areas after ∧ 0 < after.openBatches := by
  rcases spares with spares | rfl
  · obtain ⟨areas, result, after, done, written, confined⟩ : Hushes (perform publish close request) _ world :=
      hushes_perform request world opened bounded spares
    exact ⟨areas, after, congrArg Prod.snd done, written.toWidened, confined,
      Nat.lt_of_lt_of_le opened written.openBatches_le⟩
  · have several := more rfl
    obtain ⟨silent, closed⟩ := Sheet.widened_batchClosed (show world.state.openBatches - 1 ≠ 0 by omega)
    have done : (endBatch publish).outcome world = _ := outcome_endBatch world
    rw [silent] at done
    exact ⟨[], _, congrArg Prod.snd done, closed, world.state.confined_batchClosed, Nat.sub_pos_of_lt several⟩

theorem ask_of_spared (opened : 0 < world.state.openBatches) (bounded : world.state.Bounded)
    (spares : ∀ request ∈ requests, request.spares world.state.merges = true ∨ request = .endBatch)
    (more : ∀ earlier, earlier ++ [.endBatch] <+: requests → 1 < (world.ask publish close earlier).state.openBatches) :
    ∃ areas after, world.ask publish close requests = { world with state := after } ∧
      world.state.Widened areas after ∧ world.state.Confined areas after := by
  induction requests generalizing world with
  | nil => exact ⟨[], _, rfl, .refl _, .refl _⟩
  | cons request rest ih =>
    obtain ⟨areas, after, done, written, confined, still⟩ :=
      leaves_of_spared publish close opened bounded (spares request List.mem_cons_self)
        fun same => more [] ⟨rest, by rw [same]; rfl⟩
    have asked : world.ask publish close (request :: rest) =
        SheetWorld.ask publish close { world with state := after } rest :=
      congrArg (SheetWorld.ask publish close · rest) done
    obtain ⟨others, last, remaining, wider, deeper⟩ := @ih { world with state := after } still (written.bounded bounded)
      (fun other member => confined.merges_eq ▸ spares other (List.mem_cons_of_mem _ member)) fun earlier before => by
        have several := more (request :: earlier) (List.cons_prefix_cons.mpr ⟨rfl, before⟩)
        rwa [show world.ask publish close (request :: earlier) = _ from
          congrArg (SheetWorld.ask publish close · earlier) done] at several
    exact ⟨_, last, asked.trans remaining, written.trans wider, confined.trans deeper⟩

/-- Requests from when a first batch has been opened until the last one is about to be closed, by which no region comes
or goes. -/
structure Sparing (publish : Publisher) (close : Session Unit) (world : SheetWorld) (requests : List SheetRequest) :
    Prop where
  spares : ∀ request ∈ requests, request.spares world.state.merges = true ∨ request = .endBatch
  more : ∀ earlier, earlier ++ [.endBatch] <+: requests →
    1 < (world.ask publish close (.beginBatch :: earlier)).state.openBatches
  last : (world.ask publish close (.beginBatch :: requests)).state.openBatches = 1

/-- Nothing is told before the last batch is closed. Then one event is, about a range that covers all cells whose contents
have changed; or nothing has been written, and all is as before. -/
structure ToldAtLast (publish : Publisher) (close : Session Unit) (world : SheetWorld) (requests : List SheetRequest) :
    Prop where
  silent : ∀ earlier, earlier <+: requests → ∃ state,
    world.ask publish close (.beginBatch :: earlier) = { world with state }
  told : world.ask publish close (.beginBatch :: requests ++ [.endBatch]) = world ∨ ∃ range after,
    world.ask publish close (.beginBatch :: requests ++ [.endBatch]) =
        (publish (.range range)).leaves { world with state := after } ∧
      after.openBatches = 0 ∧ after.pending = none ∧ after.merges = world.state.merges ∧
      ∀ cell, after.contents cell ≠ world.state.contents cell → range.contains cell = true

theorem Sparing.confined (sparing : Sparing publish close world requests) (live : world.state.isDisposed = false)
    (bounded : world.state.Bounded) {earlier : List SheetRequest} (before : earlier <+: requests) :
    ∃ areas after, world.ask publish close (.beginBatch :: earlier) = { world with state := after } ∧
      world.state.batchOpened.Widened areas after ∧ world.state.Confined areas after := by
  obtain ⟨rest, rfl⟩ := before
  obtain ⟨asked, _⟩ : world.ask publish close (.beginBatch :: earlier) = _ ∧ _ := ask_beginBatch live earlier
  have opened : 0 < world.state.batchOpened.openBatches := Nat.succ_pos _
  obtain ⟨areas, after, done, written, confined⟩ :=
    @ask_of_spared publish close { world with state := world.state.batchOpened } earlier opened
      ⟨bounded.rows, bounded.columns⟩ (fun request member => sparing.spares request (List.mem_append_left _ member))
      fun first before => by
        rw [← (ask_beginBatch live first).1]
        exact sparing.more first (before.trans (List.prefix_append _ _))
  exact ⟨areas, after, asked.trans done, written, world.state.confined_batchOpened.trans confined⟩

theorem Sparing.told (sparing : Sparing publish close world requests) (live : world.state.isDisposed = false)
    (bounded : world.state.Bounded) (closed : world.state.openBatches = 0) (idle : world.state.pending = none) :
    ToldAtLast publish close world requests := by
  constructor
  · intro earlier before
    obtain ⟨_, after, done, _⟩ := sparing.confined live bounded before
    exact ⟨after, done⟩
  · obtain ⟨areas, after, done, written, confined⟩ := sparing.confined live bounded (List.prefix_refl _)
    have only : after.openBatches - 1 = 0 := by
      have last := sparing.last
      rw [done] at last
      exact Nat.sub_eq_zero_of_le (Nat.le_of_eq last)
    have pending : after.pending = Range.hull? areas := by
      rw [written.pending_eq, show world.state.batchOpened.pending = none from idle]
      rfl
    have ended : world.ask publish close (.beginBatch :: requests ++ [.endBatch]) =
        (endBatch publish).leaves { world with state := after } := by
      rw [← done]
      exact List.foldl_append
    rw [Run.leaves, outcome_endBatch] at ended
    simp only [Sheet.due, if_pos only, pending] at ended
    cases hull : Range.hull? areas with
    | none =>
      have same : after.batchClosed = world.state := by
        cases Range.hull?_eq_none_iff.mp hull
        exact Sheet.batchClosed_eq written confined closed idle only
      rw [hull, same] at ended
      exact .inl ended
    | some range =>
      rw [hull] at ended
      refine .inr ⟨range, after.batchClosed, ended.trans (Run.leaves_forM_singleton _ _), only, if_pos only,
        confined.merges_eq, ?_⟩
      intro cell differs
      by_contra outside
      refine differs (confined.elsewhere cell fun area member => ?_)
      have within := (Range.containsRange_hull? hull).mp (Range.containsRange_refl range) area member
      rw [← Bool.not_eq_true]
      exact fun inside => outside (Range.contains_trans within inside)

/-- A body by which no region comes or goes may be run in a batch of its own, whatever fails there. -/
theorem sparing_attempt {body : List SheetRequest} (live : world.state.isDisposed = false)
    (bounded : world.state.Bounded) (closed : world.state.openBatches = 0)
    (spare : SheetRequest.allSpare world.state.merges body = true) (none : SheetRequest.anyOpens body = false) :
    Sparing publish close world [.attempt body] := by
  refine ⟨?_, ?_, ?_⟩
  · intro request member
    rw [List.mem_singleton] at member
    exact .inl (member ▸ spare)
  · intro earlier before
    have member : SheetRequest.endBatch ∈ [SheetRequest.attempt body] := before.subset (by simp)
    cases List.mem_singleton.mp member
  · rw [(ask_beginBatch live _).1]
    obtain ⟨areas, result, after, done, written, _⟩ : Hushes (perform publish close (.attempt body)) _
        { world with state := world.state.batchOpened } :=
      hushes_perform (.attempt body) _ (Nat.succ_pos _) ⟨bounded.rows, bounded.columns⟩ spare
    have left : SheetWorld.ask publish close { world with state := world.state.batchOpened } [.attempt body] =
        { world with state := after } := congrArg Prod.snd done
    rw [left]
    refine (written.openBatches_eq none).trans ?_
    rw [show world.state.batchOpened.openBatches = world.state.openBatches + 1 from rfl, closed]

/-- As long as no region comes or goes, nothing leaks out of batches, however they are nested or overlap and whatever is
asked for in them. A batch with a body is opened, has its body run, and is closed, whatever has failed. -/
theorem Reachable.toldAtLast (reachable : Reachable world) (live : world.state.isDisposed = false)
    (closed : world.state.openBatches = 0) (publish : Publisher) (close : Session Unit) :
    (∀ requests, Sparing publish close world requests → ToldAtLast publish close world requests) ∧
    ∀ body, SheetRequest.allSpare world.state.merges body = true → SheetRequest.anyOpens body = false →
      Sparing publish close world [.attempt body] ∧
        world.ask publish close [.batch body] = world.ask publish close [.beginBatch, .attempt body, .endBatch] := by
  obtain ⟨rows, columns, sound, _⟩ := reachable.sound
  refine ⟨fun requests sparing => ?_, fun body spare none => ?_⟩
  · exact sparing.told live sound.bounded closed (sound.pending_eq_none closed)
  · exact ⟨sparing_attempt live sound.bounded closed spare none, ask_batch live body⟩

/-- Two numbers are filled down beside a region in a batch that gives up at last. -/
theorem toldAtLast_with_fill :
    let start : SheetWorld := { state := { rows := maxRows, columns := maxColumns } }
    let publish := sheetHost.publish
    let close := sheetHost.close
    let joined := (sheetHost.act 1 (.request (.merge ⟨0, 2, 1, 2⟩))).leaves start
    let world : SheetWorld := (sheetHost.act 1 (.subscribe "reader" (fun _ => []) none)).leaves joined
    let body : List SheetRequest := [.setValue ⟨0, 0⟩ (some (.number 1)), .setValue ⟨1, 0⟩ (some (.number 3)),
      .smartFill ⟨0, 0, 1, 0⟩ ⟨2, 0, 4, 0⟩ none, .unmerge ⟨2, 2⟩, .giveUp .disposed]
    Reachable world ∧ Sparing publish close world [.attempt body] ∧ ToldAtLast publish close world [.attempt body] ∧
      (world.ask publish close [.batch body]).trace.filterMap (Occurrence.eventFor? 0) = [.range ⟨0, 0, 4, 0⟩] := by
  intro start publish close joined world body
  have begin : Reachable start := .created (.record []) {} [] rfl rfl
  have reachable : Reachable world := (begin.acted 1 _).acted 1 _
  obtain ⟨told, bodies⟩ := reachable.toldAtLast (by decide +kernel) (by decide +kernel) publish close
  have sparing := (bodies body (by decide +kernel) rfl).1
  exact ⟨reachable, sparing, told _ sparing, by decide +kernel⟩

/-- A region is told as soon as it is registered, in the open batch, and the range of the batch is told besides. -/
theorem told_in_open_batch :
    let start : SheetWorld := { state := { rows := maxRows, columns := maxColumns } }
    let publish := sheetHost.publish
    let close := sheetHost.close
    let world : SheetWorld := (sheetHost.act 1 (.subscribe "reader" (fun _ => []) none)).leaves start
    let merged := world.ask publish close
      [.beginBatch, .fillWithCell ⟨0, 0, 0, 1⟩ (some (.ofValue (.number 1))), .merge ⟨0, 0, 0, 1⟩]
    let ended := merged.ask publish close [.endBatch]
    Reachable world ∧ merged.state.openBatches = 1 ∧
      merged.trace.filterMap (Occurrence.eventFor? 0) = [.merge ⟨0, 0, 0, 1⟩] ∧
      ended.trace.filterMap (Occurrence.eventFor? 0) = [.range ⟨0, 0, 0, 1⟩, .merge ⟨0, 0, 0, 1⟩] := by
  intro start publish close world merged ended
  have begin : Reachable start := .created (.record []) {} [] rfl rfl
  exact ⟨begin.acted 1 _, by decide +kernel, by decide +kernel, by decide +kernel⟩

end SheetWorld
end Spreadsheet
