import Spreadsheet.Proofs.Sheet.Consistency
import Spreadsheet.Proofs.Sheet.Replica

/-! What is told of a sheet is complete: a subscriber who reads again what it is told of has all cells and regions, as
soon as no batch is open. -/
namespace Spreadsheet

/-- The replica after all that was delivered; of the occurrences, the latest is the first. -/
def Replica.replay (replica : Replica) : List (Occurrence (Change Int) Sheet) → Replica
  | [] => replica
  | .delivered delivery :: earlier => (replica.replay earlier).hear delivery.state delivery.event
  | _ :: earlier => replica.replay earlier

namespace SheetWorld
variable {rows columns : Nat} {publish : Publisher} {inv : SheetWorld → Prop} {world : SheetWorld}

theorem outcome_takeAway (publish : Publisher) {region : MergeRegion} (found : world.state.merges.at? region.anchor = some region) :
    (Session.takeAway publish region).outcome world =
      (publish (.unmerge region.cells)).outcome
        { world with state := { world.state with merges := world.state.merges.remove region } } := by
  rw [Session.outcome_takeAway, MergeRegistry.unmerge, found]
  rfl

/-- Where nobody who is told changes the sheet, regions that move are taken away as acts. -/
theorem upheld_of_quiet (sound : ∀ world, inv world → world.state.Sound rows columns)
    (act : ∀ world events after, inv world → world.state.Act events after →
      inv (Run.leaves (events.forM publish) { world with state := after }))
    (quiet : ∀ world event after, inv world → ∃ told,
      (publish event).outcome { world with state := after } = (.ok (), told) ∧ told.state = after) :
    Upheld rows columns publish inv where
  sound := sound
  act := act
  withdraw world moving holds listed := by
    have distinct := ((sound world holds).merges.pairwise_topLeft).sublist listed
    have registered : ∀ region ∈ moving, region ∈ world.state.merges.regions := fun _ member => listed.subset member
    clear listed
    induction moving generalizing world with
    | nil => exact holds
    | cons region rest ih =>
      obtain ⟨others, later⟩ := List.pairwise_cons.mp distinct
      have member := registered region List.mem_cons_self
      have first := outcome_takeAway publish ((sound world holds).merges.at?_anchor member)
      obtain ⟨told, done, same⟩ := quiet world (.unmerge region.cells)
        { world.state with merges := world.state.merges.remove region } holds
      have kept : inv told := by
        have upheld := act world _ _ holds (.unmerge [region] (by simpa using member))
        rw [List.map_singleton, Run.leaves_forM_singleton] at upheld
        rwa [← show _ = told from congrArg Prod.snd done]
      have remaining : ∀ other ∈ rest, other ∈ told.state.merges.regions := by
        intro other there
        rw [same]
        have earlier := registered other (List.mem_cons_of_mem _ there)
        exact MergeRegistry.mem_regions_remove.mpr ⟨earlier, (others other there).symm⟩
      have after := ih told kept later remaining
      unfold Run.leaves at after ⊢
      rwa [show (Session.withdraw publish (region :: rest)).outcome world = _ from
        Run.outcome_bind_ok (first.trans done)]

section hearing
variable (run : Action (Change Int) SheetRequest Sheet → Session Unit) (describe : Change Int → Except SheetError String)

/-- Events are delivered to a subscriber who only reads, and its replica hears them. -/
theorem outcome_forM_emit (watched : world.feed.Watched) (events : List (Change Int)) :
    ∃ news : List (Occurrence (Change Int) Sheet),
      (∀ replica : Replica, ∀ earlier,
        replica.replay (news ++ earlier) = events.foldl (Replica.hear world.state) (replica.replay earlier)) ∧
      Run.outcome (events.forM (Run.emit run describe)) world =
        (.ok (), { world with trace := news ++ world.trace }) := by
  induction events generalizing world with
  | nil => exact ⟨[], fun _ _ => rfl, rfl⟩
  | cons event rest ih =>
    obtain ⟨delivery, told, state, done⟩ := Run.outcome_emit_of_watched run describe watched event
    let next : SheetWorld := { world with trace := .delivered delivery :: .emitted event :: world.trace }
    obtain ⟨news, heard, remaining⟩ := ih (show next.feed.Watched from watched)
    refine ⟨news ++ [.delivered delivery, .emitted event], ?_, ?_⟩
    · intro replica earlier
      rw [List.append_assoc, heard replica, List.foldl_cons, ← told, ← state]
      rfl
    · refine (Run.outcome_bind_ok done).trans (remaining.trans ?_)
      simp [next]

end hearing

/-- A sheet with one subscriber, who only reads, and has a replica ever since some earlier time. -/
structure Followed (rows columns : Nat) (replica : Replica) (past : List (Occurrence (Change Int) Sheet))
    (world : SheetWorld) : Prop where
  sound : world.state.Sound rows columns
  watched : world.feed.Watched
  follows : ∃ news, world.trace = news ++ past ∧ (replica.replay news).Follows world.state

variable {replica : Replica} {past : List (Occurrence (Change Int) Sheet)}

/-- Acts that are told keep the replica right. -/
theorem upheld_followed (run : Action (Change Int) SheetRequest Sheet → Session Unit)
    (describe : Change Int → Except SheetError String) :
    Upheld rows columns (Run.emit run describe) (Followed rows columns replica past) := by
  refine upheld_of_quiet (fun _ holds => holds.sound) ?_ ?_
  · intro world events after holds act
    let acted : SheetWorld := { world with state := after }
    have watched : acted.feed.Watched := holds.watched
    obtain ⟨earlier, recorded, follows⟩ := holds.follows
    obtain ⟨news, heard, done⟩ := outcome_forM_emit run describe watched events
    unfold Run.leaves
    rw [done]
    refine ⟨holds.sound.act act, holds.watched, news ++ earlier, ?_, ?_⟩
    · rw [List.append_assoc, ← recorded]
    · rw [heard]
      exact follows.act holds.sound act
  · intro world event after holds
    let acted : SheetWorld := { world with state := after }
    have watched : acted.feed.Watched := holds.watched
    obtain ⟨delivery, _, _, done⟩ := Run.outcome_emit_of_watched run describe watched event
    exact ⟨_, done, rfl⟩

/-- Requests that do not end the sheet keep the replica right. -/
theorem Followed.ask {requests : List SheetRequest} (followed : Followed rows columns replica past world)
    (lasting : ∀ request ∈ requests, request.disposes = false) :
    Followed rows columns replica past (world.ask sheetHost.publish sheetHost.close requests) := by
  induction requests generalizing world with
  | nil => exact followed
  | cons request rest ih =>
    refine ih ?_ fun other member => lasting other (List.mem_cons_of_mem _ member)
    have kept := lasting request List.mem_cons_self
    refine Session.keeps_perform (upheld_followed _ _) request ?_ world followed
    intro ends
    rw [kept] at ends
    cases ends

/-- A subscriber who only reads, and is the only one, has a replica of the sheet: it takes one when it subscribes, and
hears of every change. Whatever is asked of the sheet meanwhile, and whether it fails or not, the replica has all cells
and regions as soon as no batch is open. -/
theorem Reachable.replica_complete (reachable : Reachable world) (alone : world.feed.subscriptions = [])
    (opened : world.feed.closed = false) (label : String)
    (onEvent : Delivery (Change Int) Sheet → List (Action (Change Int) SheetRequest Sheet))
    (onClose : Option (List (Action (Change Int) SheetRequest Sheet))) (reads : ∀ delivery, onEvent delivery = [])
    (requests : List SheetRequest) (lasting : ∀ request ∈ requests, request.disposes = false) :
    let watched : SheetWorld := (sheetHost.subscribe label onEvent onClose).leaves world
    let later : SheetWorld := watched.ask sheetHost.publish sheetHost.close requests
    ∃ news, later.trace = news ++ watched.trace ∧ (later.state.openBatches = 0 →
      let kept := (Replica.ofSheet world.state).replay news
      kept.cells = (Replica.ofSheet later.state).cells ∧
        ∀ range, range ∈ kept.regions ↔ range ∈ (Replica.ofSheet later.state).regions) := by
  intro watched later
  obtain ⟨rows, columns, sound, _⟩ := reachable.sound
  have subscribed := Run.outcome_subscribe (sheetHost.act Host.maxNesting) label onEvent onClose opened
  have start : Followed rows columns (.ofSheet world.state) watched.trace watched := by
    have arrived : watched = _ := congrArg Prod.snd subscribed
    rw [arrived]
    exact ⟨sound, ⟨opened, _, by rw [alone]; rfl, reads⟩, [], rfl, Replica.follows_ofSheet _⟩
  obtain ⟨after, _, news, recorded, follows⟩ := start.ask lasting
  refine ⟨news, recorded, fun closed => ⟨?_, follows.regions⟩⟩
  funext cell
  apply follows.cells cell
  intro range waiting
  exact absurd closed (Nat.pos_iff_ne_zero.mp (after.waiting range waiting).1)

/-- Also after a merge and a batch that was given up halfway. -/
theorem replica_complete_after_failure :
    let start : SheetWorld := { state := { rows := maxRows, columns := maxColumns } }
    let watched : SheetWorld := (sheetHost.subscribe "reader" (fun _ => []) none).leaves start
    let later : SheetWorld := watched.ask sheetHost.publish sheetHost.close
      [.merge ⟨0, 0, 1, 1⟩, .batch [.setValue ⟨0, 0⟩ (some (.number 1)), .giveUp .disposed, .clear]]
    ∃ news, later.trace = news ++ watched.trace ∧
      let kept := (Replica.ofSheet start.state).replay news
      kept.cells = (Replica.ofSheet later.state).cells ∧
        ∀ range, range ∈ kept.regions ↔ range ∈ (Replica.ofSheet later.state).regions := by
  have start : Reachable { state := { rows := maxRows, columns := maxColumns } } :=
    .created (.record []) {} [] rfl rfl
  obtain ⟨news, recorded, complete⟩ := start.replica_complete rfl rfl "reader" (fun _ => []) none (fun _ => rfl)
    [.merge ⟨0, 0, 1, 1⟩, .batch [.setValue ⟨0, 0⟩ (some (.number 1)), .giveUp .disposed, .clear]] (by decide)
  exact ⟨news, recorded, complete (by decide +kernel)⟩

end SheetWorld
end Spreadsheet
