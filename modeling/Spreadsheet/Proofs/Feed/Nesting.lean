import Spreadsheet.Feed.Bare
import Spreadsheet.Proofs.Feed.Orderly

/-! Subscribers may act while they are called, and act on the very feed that calls them. However deep that goes, it
leaves alone the emission, and the end, that is under way: an emission calls those who were there as it began, and the
end of the feed is told to those who were there then. -/
namespace Spreadsheet

variable {Event Request State : Type}

open Occurrence (present calls emissions allTold)

namespace Run
variable {α : Type} {start world : World Event Request State}
  {run : Action Event Request State → Run Event Request State Unit} {describe : Event → Except SheetError String}
  {event : Event}

/-- Whatever has been going on goes on: subscribers may do this while they are called. -/
abbrev Steady (run : Run Event Request State α) : Prop := ∀ start, Keeps (World.Since start) run

theorem Steady.since {program : Run Event Request State α} (steady : Steady program) (orderly : world.Orderly) :
    world.Since (program.leaves world) := steady world world orderly.since

theorem steady_all (steady : ∀ action, Steady (run action)) (actions : List (Action Event Request State)) :
    Steady (all run actions) := fun start => keeps_all fun action _ => steady action start

theorem outcome_unsubscribe (label : String) :
    (unsubscribe label).outcome world =
      (.ok (), (world.feed.latest.lookup label).elim world world.without) := by
  unfold unsubscribe
  rw [outcome_bind_ok outcome_feed]
  cases world.feed.latest.lookup label <;> rfl

/-- The latest subscription under a label is given up; nothing else changes. -/
theorem feed_unsubscribe (label : String) :
    ((unsubscribe label).leaves world).feed =
      { world.feed with
        subscriptions := world.feed.subscriptions.filter fun subscription =>
          some subscription.token != world.feed.latest.lookup label } := by
  unfold leaves
  rw [outcome_unsubscribe]
  cases world.feed.latest.lookup label with
  | none =>
    have all : world.feed.subscriptions.filter (fun subscription => some subscription.token != none) =
      world.feed.subscriptions := List.filter_eq_self.mpr fun _ _ => rfl
    rw [all]
    rfl
  | some token => simp [World.without, bne]

theorem steady_unsubscribe (label : String) : Steady (unsubscribe label : Run Event Request State Unit) := by
  intro start world since
  unfold leaves
  rw [outcome_unsubscribe]
  cases found : world.feed.latest.lookup label with
  | none => exact since
  | some token =>
    obtain ⟨before, after, split, -⟩ := List.lookup_eq_some_iff.mp found
    have named : (label, token) ∈ world.feed.latest := by simp [split]
    exact since.next (since.orderly.without (since.orderly.latest _ named)) (Nat.le_refl _) id rfl nofun nofun

/-- To be told of the end of the feed by a token that is new. -/
theorem tell_since (steady : ∀ action, Steady (run action)) (since : start.Since world)
    (closed : world.feed.closed = true) {token : Nat} (made : token < world.feed.made)
    (untold : token ∉ allTold world.trace) (fresh : start.feed.made ≤ token) (label : String)
    (onClose : Option (List (Action Event Request State))) :
    start.Since ((tell run token label onClose).leaves world) ∧
      world.feed.made ≤ ((tell run token label onClose).leaves world).feed.made := by
  cases onClose with
  | none => exact ⟨since, Nat.le_refl _⟩
  | some actions =>
    have telling := since.telling closed made untold (fun _ => fresh) label
    have acted := (steady_all steady actions).since telling.orderly
    exact ⟨telling.trans acted, acted.made⟩

theorem steady_subscribe (steady : ∀ action, Steady (run action)) (label : String)
    (onEvent : Delivery Event State → List (Action Event Request State))
    (onClose : Option (List (Action Event Request State))) : Steady (subscribe run label onEvent onClose) := by
  intro start world since
  have orderly := since.orderly
  by_cases closed : world.feed.closed = true
  · -- the token is taken before the subscriber is told, so that whatever it subscribes has others
    have taken : start.Since { world with feed := { world.feed with made := world.feed.made + 1 } } :=
      since.feed orderly.taken (Nat.le_succ _) id
    have told := tell_since steady taken closed (Nat.lt_succ_self world.feed.made) orderly.made_not_mem_allTold
      since.made label onClose
    have named (_ : Unit) : Keeps (fun after => start.Since after ∧ world.feed.made < after.feed.made)
        (modifyFeed fun feed => { feed with latest := (label, world.feed.made) :: feed.latest }) :=
      fun _ kept => ⟨kept.1.feed (kept.1.orderly.naming label kept.2) (Nat.le_refl _) id, kept.2⟩
    unfold subscribe leaves
    rw [outcome_bind_ok outcome_feed, outcome_bind_ok (outcome_modifyFeed _), if_pos closed]
    exact (leaves_bind told named).1
  · have opened : world.feed.closed = false := by simpa using closed
    have joined := (orderly.joining opened label onEvent onClose).naming label (Nat.lt_succ_self world.feed.made)
    unfold leaves
    rw [outcome_subscribe run label onEvent onClose opened]
    exact since.next joined (Nat.le_succ _) id rfl nofun nofun

/-- Who subscribes once the feed has ended is told so. -/
theorem mem_allTold_of_subscribe (steady : ∀ action, Steady (run action)) (orderly : world.Orderly)
    (closed : world.feed.closed = true) (label : String)
    (onEvent : Delivery Event State → List (Action Event Request State))
    (actions : List (Action Event Request State)) :
    world.feed.made ∈ allTold ((subscribe run label onEvent (some actions)).leaves world).trace := by
  have telling := orderly.taken.telling closed (Nat.lt_succ_self _) orderly.made_not_mem_allTold label
  have acted := (steady_all steady actions).since telling
  unfold subscribe leaves
  rw [outcome_bind_ok outcome_feed, outcome_bind_ok (outcome_modifyFeed _), if_pos closed]
  have named (_ : Unit) : Keeps (fun after : World Event Request State => world.feed.made ∈ allTold after.trace)
      (modifyFeed fun feed => { feed with latest := (label, world.feed.made) :: feed.latest }) :=
    fun _ told => told
  exact leaves_bind ((acted.mem_allTold_iff closed (Nat.lt_succ_self _)).mpr List.mem_cons_self) named

theorem outcome_deliver (emission : Nat) (subscription : Subscription Event Request State) :
    (deliver run describe emission event subscription).outcome world =
      (tryCatch (all run (subscription.onEvent (world.callOf emission event subscription)))
        fun _ => do let _ ← lift (describe event)).outcome (world.calling emission event subscription) := rfl

/-- A call that does not fail needs no account. -/
theorem outcome_tryCatch_ok {program : Run Event Request State α} {handler : SheetError → Run Event Request State α}
    {value : α} (done : (program.outcome world).1 = .ok value) :
    (tryCatch program handler).outcome world = program.outcome world := by
  rw [outcome_tryCatch]
  rcases same : program.outcome world with ⟨_ | _, after⟩
  · rw [same] at done
    cases done
  · rfl

/-- The next subscriber is called, and may do what it likes. -/
theorem awaited_deliver (describe : Event → Except SheetError String) (steady : ∀ action, Steady (run action))
    {subscription : Subscription Event Request State}
    {rest : List (Subscription Event Request State)} (awaited : start.Awaited event (subscription :: rest) world) :
    start.Awaited event rest
      ((deliver run describe (emissions start.trace) event subscription).leaves world) := by
  unfold leaves
  rw [outcome_deliver]
  have called := awaited.calling
  refine called.mono (keeps_tryCatch (steady_all steady _ _) ?_ _ called.since.orderly.since)
  exact fun _ => keeps_bind (keeps_lift _) fun _ => keeps_pure _

theorem outcome_deliverAll_cons (deliverTo : Subscription Event Request State → Run Event Request State Unit)
    (subscription : Subscription Event Request State) (rest : List (Subscription Event Request State)) :
    (deliverAll deliverTo (subscription :: rest)).outcome world =
      match (deliverTo subscription).outcome world with
      | (.ok _, after) => (deliverAll deliverTo rest).outcome after
      | (.error error, after) => (.error error, after) := by
  change (deliverTo subscription >>= fun _ => deliverAll deliverTo rest).outcome world = _
  rw [outcome_bind]
  rcases (deliverTo subscription).outcome world with ⟨_ | _, after⟩ <;> rfl

/-- An emission goes on until all are called, unless it fails. -/
theorem awaited_deliverAll (describe : Event → Except SheetError String) (steady : ∀ action, Steady (run action))
    {rest : List (Subscription Event Request State)} (awaited : start.Awaited event rest world) :
    ∃ left, start.Awaited event left
        ((deliverAll (deliver run describe (emissions start.trace) event) rest).leaves world) ∧
      (((deliverAll (deliver run describe (emissions start.trace) event) rest).outcome world).1 = .ok () →
        left = []) := by
  unfold leaves
  induction rest generalizing world with
  | nil => exact ⟨[], awaited, fun _ => rfl⟩
  | cons subscription rest ih =>
    have called := awaited_deliver describe steady awaited
    unfold leaves at called
    rw [outcome_deliverAll_cons]
    split <;> rename_i same <;> rw [same] at called
    · exact ih called
    · exact ⟨rest, called, nofun⟩

theorem outcome_emit (opened : world.feed.closed = false) :
    (emit run describe event).outcome world =
      (deliverAll (deliver run describe (emissions world.trace) event) world.feed.subscriptions).outcome
        (world.emitting event) := by
  unfold emit
  rw [outcome_bind_ok outcome_feed, opened]
  rfl

theorem outcome_emit_of_closed (closed : world.feed.closed = true) :
    (emit run describe event).outcome world = (.ok (), world) := by
  unfold emit
  rw [outcome_bind_ok outcome_feed, if_pos closed]
  rfl

theorem steady_emit (steady : ∀ action, Steady (run action)) (event : Event) : Steady (emit run describe event) := by
  intro start world since
  unfold leaves
  by_cases closed : world.feed.closed = true
  · rw [outcome_emit_of_closed closed]
    exact since
  · have opened : world.feed.closed = false := by simpa using closed
    rw [outcome_emit opened]
    obtain ⟨left, awaited, -⟩ :=
      awaited_deliverAll describe steady (since.orderly.awaited opened event)
    exact since.trans awaited.since

/-- An emission that does not fail has called those who were there as it began, one after the other. -/
theorem calls_of_emit (steady : ∀ action, Steady (run action)) (orderly : world.Orderly)
    (opened : world.feed.closed = false) (done : ((emit run describe event).outcome world).1 = .ok ()) :
    calls (emissions world.trace) ((emit run describe event).leaves world).trace =
      world.feed.subscriptions.map fun subscription => (subscription.token, event) := by
  unfold leaves
  rw [outcome_emit opened] at done ⊢
  obtain ⟨left, awaited, ends⟩ :=
    awaited_deliverAll describe steady (orderly.awaited opened event)
  have all := awaited.calls
  rwa [ends done, List.map_nil, List.append_nil] at all

/-- A subscriber is told of the end of the feed, whatever it does then. -/
def tellSafely (run : Action Event Request State → Run Event Request State Unit)
    (subscription : Subscription Event Request State) : Run Event Request State Unit :=
  tryCatch (tell run subscription.token subscription.label subscription.onClose) fun _ => pure ()

theorem outcome_tellSafely (subscription : Subscription Event Request State) :
    (tellSafely run subscription).outcome world =
      (.ok (), (tell run subscription.token subscription.label subscription.onClose).leaves world) := by
  unfold tellSafely leaves
  rw [outcome_tryCatch]
  split <;> simp_all

/-- The next subscriber is told, if it wants to be, and may do what it likes. -/
theorem told_tellSafely (steady : ∀ action, Steady (run action)) {subscription : Subscription Event Request State}
    {rest : List (Subscription Event Request State)} (since : start.Since world) (opened : start.feed.closed = false)
    (untold : World.Untold (subscription :: rest) world) :
    ∃ after, (tellSafely run subscription).outcome world = (.ok (), after) ∧ start.Since after ∧
      World.Untold rest after ∧ world.feed.made ≤ after.feed.made ∧
      ∀ token < world.feed.made, token ∈ allTold after.trace ↔
        subscription.token = token ∧ subscription.onClose.isSome = true ∨ token ∈ allTold world.trace := by
  refine ⟨_, outcome_tellSafely subscription, ?_⟩
  cases wants : subscription.onClose with
  | none => exact ⟨since, untold.tail, Nat.le_refl _, fun token _ => by simp [tell, leaves]⟩
  | some actions =>
    have telling := since.telling untold.closed (untold.made _ List.mem_cons_self)
      (untold.untold _ List.mem_cons_self) (by simp [opened]) subscription.label
    have acted := (steady_all steady actions).since telling.orderly
    refine ⟨telling.trans acted, untold.telling.mono acted, acted.made, fun token old => ?_⟩
    refine (acted.mem_allTold_iff untold.closed old).trans ?_
    simp [World.telling, allTold, Occurrence.told?, eq_comm]

/-- As the feed ends, those who were there and want to be are told. -/
theorem told_deliverAll (steady : ∀ action, Steady (run action)) {rest : List (Subscription Event Request State)}
    (since : start.Since world) (opened : start.feed.closed = false) (untold : World.Untold rest world) :
    ∃ after, (deliverAll (tellSafely run) rest).outcome world = (.ok (), after) ∧ start.Since after ∧
      ∀ token < world.feed.made, token ∈ allTold after.trace ↔ token ∈ allTold world.trace ∨
        ∃ subscription ∈ rest, subscription.token = token ∧ subscription.onClose.isSome = true := by
  induction rest generalizing world with
  | nil => exact ⟨world, rfl, since, by simp⟩
  | cons subscription rest ih =>
    obtain ⟨middle, first, since, remaining, made, now⟩ := told_tellSafely steady since opened untold
    obtain ⟨after, done, later, told⟩ := ih since remaining
    rw [outcome_deliverAll_cons, first]
    refine ⟨after, done, later, fun token old => ?_⟩
    rw [told token (Nat.lt_of_lt_of_le old made), now token old]
    simp only [List.mem_cons, exists_eq_or_imp]
    exact or_assoc.trans or_left_comm

theorem outcome_close (opened : world.feed.closed = false) :
    (close run).outcome world = (deliverAll (tellSafely run) world.feed.subscriptions).outcome world.ended := by
  unfold close
  rw [outcome_bind_ok outcome_feed, opened]
  rfl

theorem steady_close (steady : ∀ action, Steady (run action)) : Steady (close run) := by
  intro start world since
  by_cases closed : world.feed.closed = true
  · rw [leaves_close_of_closed closed]
    exact since
  · have opened : world.feed.closed = false := by simpa using closed
    have ended := since.ended opened
    obtain ⟨after, done, later, -⟩ :=
      told_deliverAll steady ended (since.opened opened) (since.orderly.untold opened)
    unfold leaves
    rw [outcome_close opened, done]
    exact later

/-- The feed ends for all who are there, and they are told so if they want to be. -/
theorem mem_allTold_of_close (steady : ∀ action, Steady (run action)) (orderly : world.Orderly)
    (opened : world.feed.closed = false) {subscription : Subscription Event Request State}
    (member : subscription ∈ world.feed.subscriptions) :
    subscription.token ∈ allTold ((close run).leaves world).trace ↔ subscription.onClose.isSome = true := by
  have untold := orderly.untold opened
  obtain ⟨after, done, -, told⟩ := told_deliverAll steady (orderly.since.ended opened) opened untold
  unfold leaves
  rw [outcome_close opened, done, told _ (untold.made _ member)]
  constructor
  · rintro (before | ⟨other, there, same, wants⟩)
    · exact absurd before (untold.untold _ member)
    · rwa [← List.inj_on_of_nodup_map untold.distinct there member same]
  · exact fun wants => .inr ⟨_, member, rfl, wants⟩

end Run

/-- Whatever a subscriber of a bare feed does, however deep its calls are nested, is part of what is going on. -/
theorem bareFeed_steady (fuel : Nat) (action : Action (Change Number) FeedRequest Unit) :
    Run.Steady (bareFeed.act fuel action) := by
  induction fuel generalizing action with
  | zero => exact fun _ => Run.keeps_throw _
  | succ fuel ih =>
    cases action with
    | fail error => exact fun _ => Run.keeps_throw _
    | subscribe label onEvent onClose => exact Run.steady_subscribe ih label onEvent onClose
    | unsubscribe label => exact Run.steady_unsubscribe label
    | request request =>
      cases request with
      | emit change => exact Run.steady_emit ih change
      | close => exact Run.steady_close ih

end Spreadsheet
