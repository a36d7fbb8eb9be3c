import Spreadsheet.Proofs.Sheet.Consistency
import Spreadsheet.Proofs.Sheet.Waiting

/-! Writes in batches are told as one. While a batch is open nothing is told; when the last one is closed, one event tells
the hull of all areas that were written, whatever has failed meanwhile. -/
namespace Spreadsheet

namespace SheetWorld
open Session
variable {publish : Publisher} {close : Session Unit} {world : SheetWorld} {requests : List SheetRequest}

/-- A request to write, or to close one of several batches, tells nothing. -/
theorem leaves_of_open (publish : Publisher) (close : Session Unit) {request : SheetRequest}
    (opened : 0 < world.state.openBatches) (writes : request.writes = true ∨ request = .endBatch)
    (more : request = .endBatch → 1 < world.state.openBatches) :
    ∃ after, (perform publish close request).leaves world = { world with state := after } ∧
      world.state.Widened (touched publish close request world) after ∧ 0 < after.openBatches := by
  rcases writes with writes | rfl
  · obtain ⟨result, after, done, written⟩ :
        Waits (perform publish close request) _ (touched publish close request world) world :=
      waits_perform request writes world opened
    exact ⟨after, congrArg Prod.snd done, written.toWidened, Nat.lt_of_lt_of_le opened written.openBatches_le⟩
  · have several := more rfl
    obtain ⟨silent, closed⟩ := Sheet.widened_batchClosed (show world.state.openBatches - 1 ≠ 0 by omega)
    have done : (endBatch publish).outcome world = _ := outcome_endBatch world
    rw [silent] at done
    exact ⟨_, congrArg Prod.snd done, closed, Nat.sub_pos_of_lt several⟩

/-- Requests made while batches are open tell nothing, and what they write waits, as long as the last batch is not
closed. -/
theorem ask_of_open (opened : 0 < world.state.openBatches)
    (writes : ∀ request ∈ requests, request.writes = true ∨ request = .endBatch)
    (more : ∀ earlier, earlier ++ [.endBatch] <+: requests → 1 < (world.ask publish close earlier).state.openBatches) :
    ∃ after, world.ask publish close requests = { world with state := after } ∧
      world.state.Widened (touchedInTurn publish close requests world) after ∧ 0 < after.openBatches := by
  induction requests generalizing world with
  | nil => exact ⟨_, rfl, .refl _, opened⟩
  | cons request rest ih =>
    obtain ⟨after, done, first, still⟩ := leaves_of_open publish close opened (writes request List.mem_cons_self)
      fun same => more [] ⟨rest, by rw [same]; rfl⟩
    have asked : world.ask publish close (request :: rest) =
        SheetWorld.ask publish close { world with state := after } rest := congrArg (SheetWorld.ask publish close · rest) done
    obtain ⟨last, remaining, second, going⟩ := @ih { world with state := after } still
      (fun other member => writes other (List.mem_cons_of_mem _ member)) fun earlier before => by
        have several := more (request :: earlier) (List.cons_prefix_cons.mpr ⟨rfl, before⟩)
        rwa [show world.ask publish close (request :: earlier) = _ from
          congrArg (SheetWorld.ask publish close · earlier) done] at several
    refine ⟨last, asked.trans remaining, ?_, going⟩
    unfold touchedInTurn
    rw [done]
    exact first.trans second

/-- Requests from when a first batch has been opened until the last one is about to be closed: they write cells, open
batches and close them. -/
structure Bracketed (publish : Publisher) (close : Session Unit) (world : SheetWorld) (requests : List SheetRequest) :
    Prop where
  writes : ∀ request ∈ requests, request.writes = true ∨ request = .endBatch
  more : ∀ earlier, earlier ++ [.endBatch] <+: requests →
    1 < (world.ask publish close (.beginBatch :: earlier)).state.openBatches
  last : (world.ask publish close (.beginBatch :: requests)).state.openBatches = 1

/-- Areas that were written are told by one event, the range of their hull, or not at all if there are none. When this is
told, no batch is open and nothing is pending, so that the next direct write is told by itself. -/
structure ToldAtOnce (publish : Publisher) (close : Session Unit) (world : SheetWorld) (areas : List (Range Int))
    (closed : Sheet) (after : SheetWorld) : Prop where
  openBatches_eq : closed.openBatches = 0
  pending_eq : closed.pending = none
  told : after = Run.leaves (((Range.hull? areas).map Change.range).toList.forM publish) { world with state := closed }
  next : ∀ later : SheetWorld, later.state = closed → ∀ request edit, closed.edit? request = some (.ok edit) →
    edit.change.area? = request.target? ∧
      (perform publish close request).outcome later = (publish edit.change).outcome
        { later with state := { closed with grid := edit.grid, writings := edit.writings } }

/-- How writes in batches are told. -/
structure Coalesced (publish : Publisher) (close : Session Unit) (world : SheetWorld) (requests : List SheetRequest) :
    Prop where
  silent : ∀ earlier, earlier <+: requests → ∃ state,
    world.ask publish close (.beginBatch :: earlier) = { world with state }
  told : ToldAtOnce publish close world (touchedInTurn publish close (.beginBatch :: requests) world)
    (world.ask publish close (.beginBatch :: requests)).state.batchClosed
    (world.ask publish close (.beginBatch :: requests ++ [.endBatch]))
  smallest : ∀ hull, Range.hull? (touchedInTurn publish close (.beginBatch :: requests) world) = some hull →
    ∀ outer : Range Int, outer.containsRange hull = true ↔
      ∀ area ∈ touchedInTurn publish close (.beginBatch :: requests) world, outer.containsRange area = true
  unordered : ∀ others, Bracketed publish close world others → others.Perm requests →
    (∀ request ∈ requests, request.isDirect = true) →
      Range.hull? (touchedInTurn publish close (.beginBatch :: others) world) =
        Range.hull? (touchedInTurn publish close (.beginBatch :: requests) world)

/-- The first batch is opened. -/
theorem ask_beginBatch (live : world.state.isDisposed = false) (requests : List SheetRequest) :
    world.ask publish close (.beginBatch :: requests) =
        SheetWorld.ask publish close { world with state := world.state.batchOpened } requests ∧
      touchedInTurn publish close (.beginBatch :: requests) world =
        touchedInTurn publish close requests { world with state := world.state.batchOpened } := by
  have opened : (perform publish close .beginBatch).leaves world = { world with state := world.state.batchOpened } :=
    congrArg Prod.snd (outcome_check_ok (Sheet.requireLive_ok live))
  have first : touchedInTurn publish close (.beginBatch :: requests) world =
      touchedInTurn publish close requests ((perform publish close .beginBatch).leaves world) := rfl
  exact ⟨congrArg (SheetWorld.ask publish close · requests) opened, by rw [first, opened]⟩

/-- While no batch is open, a direct write is told by itself. -/
theorem outcome_direct {request : SheetRequest} {edit : Edit} (closed : world.state.openBatches = 0)
    (asked : world.state.edit? request = some (.ok edit)) :
    edit.change.area? = request.target? ∧ (perform publish close request).outcome world =
      (publish edit.change).outcome
        { world with state := { world.state with grid := edit.grid, writings := edit.writings } } := by
  obtain ⟨named, told⟩ := Sheet.edit?_target asked
  refine ⟨told.trans named.symm, ?_⟩
  rw [outcome_perform_edit asked, outcome_settle_ok, Sheet.prompt, if_pos closed, Sheet.edited, Sheet.awaiting,
    if_pos closed]
  exact Run.outcome_bind_unit _

theorem told_nothing (closed : world.state.openBatches = 0) (idle : world.state.pending = none) :
    ToldAtOnce publish close world [] world.state world := by
  refine ⟨closed, idle, rfl, ?_⟩
  intro later here request edit asked
  rw [← here] at closed asked ⊢
  exact outcome_direct closed asked

/-- When a batch is closed that is the only one, what waits is told. -/
theorem told_due {areas : List (Range Int)} {after : Sheet} (pending : after.pending = Range.hull? areas)
    (only : after.openBatches = 1) :
    ToldAtOnce publish close world areas after.batchClosed
      ((after.due.forM publish).leaves { world with state := after.batchClosed }) := by
  have none : after.openBatches - 1 = 0 := by omega
  refine ⟨none, if_pos none, ?_, ?_⟩
  · rw [Sheet.due, if_pos none, pending]
  · intro later here request edit asked
    rw [← here] at asked ⊢
    exact outcome_direct (by rw [here]; exact none) asked

/-- From when the first batch has been opened, nothing is told, and what is written waits. -/
theorem Bracketed.waits (bracketed : Bracketed publish close world requests) (live : world.state.isDisposed = false)
    {earlier : List SheetRequest} (before : earlier <+: requests) :
    ∃ after, world.ask publish close (.beginBatch :: earlier) = { world with state := after } ∧
      world.state.batchOpened.Widened (touchedInTurn publish close (.beginBatch :: earlier) world) after := by
  obtain ⟨rest, rfl⟩ := before
  obtain ⟨asked, touched⟩ : world.ask publish close (.beginBatch :: earlier) = _ ∧ _ := ask_beginBatch live earlier
  have opened : 0 < world.state.batchOpened.openBatches := Nat.succ_pos _
  obtain ⟨after, done, written, _⟩ := @ask_of_open publish close { world with state := world.state.batchOpened } earlier
    opened (fun request member => bracketed.writes request (List.mem_append_left _ member)) fun first before => by
      rw [← (ask_beginBatch live first).1]
      exact bracketed.more first (before.trans (List.prefix_append _ _))
  exact ⟨after, asked.trans done, touched ▸ written⟩

/-- What is touched in turn is what each request touches after the earlier ones. -/
theorem mem_touchedInTurn {area : Range Int} :
    area ∈ touchedInTurn publish close requests world ↔ ∃ earlier request later,
      requests = earlier ++ request :: later ∧ area ∈ touched publish close request (world.ask publish close earlier) := by
  induction requests generalizing world with
  | nil => simp [touchedInTurn]
  | cons first rest ih =>
    unfold touchedInTurn
    rw [List.mem_append, ih]
    constructor
    · rintro (here | ⟨earlier, request, later, rfl, there⟩)
      · exact ⟨[], first, rest, rfl, here⟩
      · exact ⟨first :: earlier, request, later, rfl, there⟩
    · rintro ⟨earlier, request, later, same, inside⟩
      cases earlier with
      | nil =>
        cases same
        exact .inl inside
      | cons head earlier =>
        cases same
        exact .inr ⟨earlier, request, later, rfl, inside⟩

theorem touched_direct {request : SheetRequest} (direct : request.isDirect = true) :
    touched publish close request world = world.state.editAreas request := by
  cases request with
  | fillRange | batch | attempt => cases direct
  | _ => rfl

/-- Direct writes touch what each of them would have touched at first. -/
theorem Bracketed.mem_touched (bracketed : Bracketed publish close world requests) (live : world.state.isDisposed = false)
    (direct : ∀ request ∈ requests, request.isDirect = true) (area : Range Int) :
    area ∈ touchedInTurn publish close (.beginBatch :: requests) world ↔
      ∃ request ∈ requests, area ∈ world.state.editAreas request := by
  have same {earlier later : List SheetRequest} {request : SheetRequest} (split : requests = earlier ++ request :: later) :
      touched publish close request (world.ask publish close (.beginBatch :: earlier)) =
        world.state.editAreas request := by
    obtain ⟨after, done, written⟩ := bracketed.waits live ⟨request :: later, split.symm⟩
    rw [done, touched_direct (direct request (by simp [split])), written.editAreas]
    exact world.state.deepened_batchOpened.toWidened.editAreas request
  rw [mem_touchedInTurn]
  constructor
  · rintro ⟨earlier, request, later, split, inside⟩
    cases earlier with
    | nil =>
      cases split
      cases inside
    | cons first earlier =>
      obtain ⟨rfl, rest⟩ := List.cons.inj split
      rw [same rest] at inside
      exact ⟨request, by simp [rest], inside⟩
  · rintro ⟨request, member, inside⟩
    obtain ⟨earlier, later, split⟩ := List.append_of_mem member
    rw [← same split] at inside
    exact ⟨.beginBatch :: earlier, request, later, by rw [split]; rfl, inside⟩

theorem coalesced (live : world.state.isDisposed = false) (idle : world.state.pending = none)
    (bracketed : Bracketed publish close world requests) : Coalesced publish close world requests := by
  refine ⟨?_, ?_, fun hull found outer => Range.containsRange_hull? found, ?_⟩
  · intro earlier before
    obtain ⟨after, done, _⟩ := bracketed.waits live before
    exact ⟨after, done⟩
  · obtain ⟨after, done, written⟩ := bracketed.waits live (List.prefix_refl _)
    have last := bracketed.last
    rw [done] at last
    have ended : world.ask publish close (.beginBatch :: requests ++ [.endBatch]) =
        (endBatch publish).leaves { world with state := after } := by
      rw [← done]
      exact List.foldl_append
    rw [ended, done, Run.leaves, outcome_endBatch]
    refine told_due ?_ last
    rw [written.pending_eq, show world.state.batchOpened.pending = none from idle]
    rfl
  · intro others arranged same direct
    refine Range.hull?_congr fun area => ?_
    rw [arranged.mem_touched live (fun request member => direct request (same.subset member)),
      bracketed.mem_touched live direct]
    constructor
    · rintro ⟨request, member, inside⟩
      exact ⟨request, same.subset member, inside⟩
    · rintro ⟨request, member, inside⟩
      exact ⟨request, same.symm.subset member, inside⟩

/-- A batch whose body writes cells, and closes the batches that it opens, is the only one that is open after its body,
whatever has failed there. -/
theorem bracketed_attempt {body : List SheetRequest} (live : world.state.isDisposed = false)
    (closed : world.state.openBatches = 0) (write : SheetRequest.allWrite body = true)
    (none : SheetRequest.anyOpens body = false) : Bracketed publish close world [.attempt body] := by
  refine ⟨?_, ?_, ?_⟩
  · intro request member
    rw [List.mem_singleton] at member
    exact .inl (member ▸ write)
  · intro earlier before
    have member : SheetRequest.endBatch ∈ [SheetRequest.attempt body] := before.subset (by simp)
    cases List.mem_singleton.mp member
  · rw [(ask_beginBatch live _).1]
    obtain ⟨result, after, done, written⟩ : Waits (perform publish close (.attempt body)) _ _
        { world with state := world.state.batchOpened } := waits_perform (.attempt body) write _ (Nat.succ_pos _)
    have left : SheetWorld.ask publish close { world with state := world.state.batchOpened } [.attempt body] =
        { world with state := after } := congrArg Prod.snd done
    rw [left]
    refine (written.openBatches_eq none).trans ?_
    rw [show world.state.batchOpened.openBatches = world.state.openBatches + 1 from rfl, closed]

/-- A batch is opened, its body is run, and the batch is closed, whatever has failed in the body. -/
theorem ask_batch (live : world.state.isDisposed = false) (body : List SheetRequest) :
    world.ask publish close [.batch body] = world.ask publish close [.beginBatch, .attempt body, .endBatch] := by
  rw [(ask_beginBatch live _).1]
  let opened : SheetWorld := { world with state := world.state.batchOpened }
  let done : SheetWorld := (performAll publish close body).leaves opened
  have batched : (batch publish (performAll publish close body)).outcome world = _ := outcome_batch live (Prod.eta _).symm
  have attempted : (perform publish close (.attempt body)).leaves opened = done := Run.leaves_bind_pure _ _
  calc world.ask publish close [.batch body]
      = (batch publish (performAll publish close body)).leaves world := rfl
    _ = (done.state.due.forM publish).leaves { done with state := done.state.batchClosed } := by
        rw [Run.leaves, batched]
        exact Run.leaves_bind_lift _ _
    _ = (endBatch publish).leaves done := by
        rw [Run.leaves, Run.leaves, outcome_endBatch]
    _ = SheetWorld.ask publish close opened [.attempt body, .endBatch] := by
        rw [← attempted]
        rfl

/-- A fill of a range by itself is told by one event. -/
theorem told_fillRange (live : world.state.isDisposed = false) (closed : world.state.openBatches = 0)
    (idle : world.state.pending = none) (source : Address Number) (target : Range Number) (generator : Option Generator) :
    ∃ closed, ToldAtOnce publish close world (world.state.fillAreas source target generator) closed
      (world.ask publish close [.fillRange source target generator]) := by
  cases passed : world.state.writableRange target with
  | error error =>
    have refused : (fillRange publish source target generator).outcome world = _ := outcome_check_error passed
    rw [Sheet.fillAreas_of_error passed, show world.ask publish close [.fillRange source target generator] = world from
      congrArg Prod.snd refused]
    exact ⟨_, told_nothing closed idle⟩
  | ok cells =>
    have filled : world.ask publish close [.fillRange source target generator] =
        ((world.state.filling? source cells target generator).elim (pure ()) (writeAll publish)).leaves world :=
      congrArg Prod.snd (outcome_fillRange passed)
    rw [Sheet.fillAreas_of_ok passed, filled]
    cases world.state.filling? source cells target generator with
    | none => exact ⟨_, told_nothing closed idle⟩
    | some made =>
      have written : Sheet.Deepened false world.state.batchOpened _ (world.state.batchOpened.putAll made).2 :=
        Sheet.deepened_putAll (Nat.succ_pos _) made
      have done : (writeAll publish made).outcome world = _ := outcome_writeAll made live (Prod.eta _).symm
      have left : (writeAll publish made).leaves world = _ := (congrArg Prod.snd done).trans (Run.leaves_bind_lift _ _)
      simp only [Option.elim_some, Option.getD_some, left]
      refine ⟨_, told_due ?_ ?_⟩
      · rw [written.pending_eq, show world.state.batchOpened.pending = none from idle]
        rfl
      · refine (written.openBatches_eq rfl).trans ?_
        rw [show world.state.batchOpened.openBatches = world.state.openBatches + 1 from rfl, closed]

/-- Writes in batches are told as one, once the last batch is closed, however batches are nested or overlap and whatever
fails in them. So is a batch by itself, and a fill of a range. -/
theorem Reachable.coalesces (reachable : Reachable world) (live : world.state.isDisposed = false)
    (closed : world.state.openBatches = 0) (publish : Publisher) (close : Session Unit) :
    (∀ requests, Bracketed publish close world requests → Coalesced publish close world requests) ∧
    (∀ body, SheetRequest.allWrite body = true → SheetRequest.anyOpens body = false →
      Bracketed publish close world [.attempt body] ∧
        world.ask publish close [.batch body] = world.ask publish close [.beginBatch, .attempt body, .endBatch]) ∧
    ∀ source target generator, ∃ filled,
      ToldAtOnce publish close world (world.state.fillAreas source target generator) filled
        (world.ask publish close [.fillRange source target generator]) := by
  obtain ⟨rows, columns, sound, _⟩ := reachable.sound
  have idle : world.state.pending = none := by
    cases waiting : world.state.pending with
    | none => rfl
    | some range => exact absurd closed (Nat.pos_iff_ne_zero.mp (sound.waiting range waiting).1)
  refine ⟨fun requests bracketed => coalesced live idle bracketed, ?_, ?_⟩
  · intro body write none
    exact ⟨bracketed_attempt live closed write none, ask_batch live body⟩
  · intro source target generator
    exact told_fillRange live closed idle source target generator

/-- Also if two batches overlap, and a callback gives up in the second one. -/
theorem coalesces_overlapping :
    let start : SheetWorld := { state := { rows := maxRows, columns := maxColumns } }
    let publish := sheetHost.publish
    let close := sheetHost.close
    let body : List SheetRequest := [.clearRange ⟨0, 3, 1, 3⟩, .giveUp .disposed, .clearRange ⟨9, 9, 9, 9⟩]
    let requests : List SheetRequest := [.setValue ⟨2, 0⟩ (some (.number 1)), .beginBatch, .endBatch, .attempt body]
    Reachable start ∧ Coalesced publish close start requests ∧
      Range.hull? (touchedInTurn publish close (.beginBatch :: requests) start) = some ⟨0, 0, 2, 3⟩ ∧
      start.ask publish close [.batch body] = start.ask publish close [.beginBatch, .attempt body, .endBatch] := by
  intro start publish close body requests
  have reachable : Reachable start := .created (.record []) {} [] rfl rfl
  obtain ⟨coalesced, batched, _⟩ := reachable.coalesces rfl rfl publish close
  have bracketed : Bracketed publish close start requests := by
    refine ⟨?_, ?_, by decide +kernel⟩
    · simp [requests, body, SheetRequest.writes, SheetRequest.allWrite]
    · intro earlier before
      -- the only batch that is closed in between is the second one
      rcases earlier with _ | ⟨first, _ | ⟨second, _ | ⟨third, _ | ⟨fourth, rest⟩⟩⟩⟩
      all_goals simp [requests, List.cons_prefix_cons] at before
      obtain ⟨rfl, rfl⟩ := before
      decide +kernel
  exact ⟨reachable, coalesced requests bracketed, by decide +kernel, (batched body rfl rfl).2⟩

end SheetWorld
end Spreadsheet
