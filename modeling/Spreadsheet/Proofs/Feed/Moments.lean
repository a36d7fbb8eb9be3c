import Spreadsheet.Proofs.Feed.Nesting
import Mathlib.Logic.Function.Iterate

/-! What subscribers of a bare feed may depend on, at every moment of every run at which somebody may act: between
actions, within a call by an emission, and within a call that tells of the end of the feed. An emission calls those who
were there as it began, even one whose subscription has ended in the meantime. -/
namespace Spreadsheet

open Occurrence (present calls emissions allTold)

abbrev FeedWorld := World (Change Number) FeedRequest Unit

abbrev FeedAction := Action (Change Number) FeedRequest Unit

abbrev FeedSubscription := Subscription (Change Number) FeedRequest Unit

namespace Run
variable {Event Request State : Type} {start world reached : World Event Request State}
  {run : Action Event Request State → Run Event Request State Unit} {describe : Event → Except SheetError String}
  {event : Event} {subscription : Subscription Event Request State} {rest : List (Subscription Event Request State)}

/-- The turn of a subscriber comes, in the world that those before it left. -/
inductive Reaches (deliverTo : Subscription Event Request State → Run Event Request State Unit) :
    List (Subscription Event Request State) → World Event Request State → Subscription Event Request State →
      World Event Request State → Prop
  | now {subscription : Subscription Event Request State} {rest : List (Subscription Event Request State)}
      {world : World Event Request State} : Reaches deliverTo (subscription :: rest) world subscription world
  | later {first subscription : Subscription Event Request State} {rest : List (Subscription Event Request State)}
      {world after reached : World Event Request State} (done : (deliverTo first).outcome world = (.ok (), after))
      (reaches : Reaches deliverTo rest after subscription reached) :
      Reaches deliverTo (first :: rest) world subscription reached

/-- If no turn fails, all have theirs. -/
theorem outcome_deliverAll_of_reaches {deliverTo : Subscription Event Request State → Run Event Request State Unit}
    (fine : ∀ subscription reached, Reaches deliverTo rest world subscription reached →
      ((deliverTo subscription).outcome reached).1 = .ok ()) :
    ((deliverAll deliverTo rest).outcome world).1 = .ok () := by
  induction rest generalizing world with
  | nil => rfl
  | cons first rest ih =>
    have done := fine first world .now
    rw [outcome_deliverAll_cons]
    split <;> rename_i same <;> rw [same] at done
    · exact ih fun other reached reaches => fine other reached (.later same reaches)
    · exact done

theorem Reaches.awaited (steady : ∀ action, Steady (run action))
    (reaches : Reaches (deliver run describe (emissions start.trace) event) rest world subscription reached)
    (awaited : start.Awaited event rest world) : ∃ left, start.Awaited event (subscription :: left) reached := by
  induction reaches with
  | now => exact ⟨_, awaited⟩
  | later done _ ih =>
    have called := awaited_deliver describe steady awaited
    unfold leaves at called
    rw [done] at called
    exact ih called

theorem Reaches.untold (steady : ∀ action, Steady (run action))
    (reaches : Reaches (tellSafely run) rest world subscription reached) (since : start.Since world)
    (opened : start.feed.closed = false) (untold : World.Untold rest world) :
    start.Since reached ∧ ∃ left, World.Untold (subscription :: left) reached := by
  induction reaches with
  | now => exact ⟨since, _, untold⟩
  | later done _ ih =>
    obtain ⟨after, told, later, remaining, -⟩ := told_tellSafely steady since opened untold
    rw [done] at told
    cases told
    exact ih later remaining

end Run

/-- A world in which somebody may act, in the course of some run. -/
inductive Moment : FeedWorld → Prop
  | start : Moment { state := () }
  /-- An action is over, whether it failed or not. -/
  | acted {world : FeedWorld} (fuel : Nat) (action : FeedAction) (moment : Moment world) :
      Moment ((bareFeed.act fuel action).leaves world)
  /-- Within an emission, a subscriber has just been called. -/
  | called {world reached : FeedWorld} {subscription : FeedSubscription} (fuel : Nat) (change : Change Number)
      (moment : Moment world) (opened : world.feed.closed = false)
      (reaches : Run.Reaches (Run.deliver (bareFeed.act fuel) bareFeed.describe (emissions world.trace) change)
        world.feed.subscriptions (world.emitting change) subscription reached) :
      Moment (reached.calling (emissions world.trace) change subscription)
  /-- As the feed ends, a subscriber has just been told. -/
  | told {world reached : FeedWorld} {subscription : FeedSubscription} (fuel : Nat) (moment : Moment world)
      (opened : world.feed.closed = false) (wants : subscription.onClose.isSome = true)
      (reaches : Run.Reaches (Run.tellSafely (bareFeed.act fuel)) world.feed.subscriptions world.ended
        subscription reached) :
      Moment (reached.telling subscription.token subscription.label)
  /-- The feed has ended before, and who subscribes has just been told. -/
  | toldLate {world : FeedWorld} (label : String) (moment : Moment world) (closed : world.feed.closed = true) :
      Moment
        (World.telling { world with feed := { world.feed with made := world.feed.made + 1 } } world.feed.made label)

theorem Moment.orderly {world : FeedWorld} (moment : Moment world) : world.Orderly := by
  induction moment with
  | start => exact World.orderly_start ()
  | acted fuel action _ orderly => exact ((bareFeed_steady fuel action).since orderly).orderly
  | called fuel change _ opened reaches orderly =>
    obtain ⟨left, awaited⟩ := reaches.awaited (bareFeed_steady fuel) (orderly.awaited opened change)
    exact awaited.calling.since.orderly
  | told fuel _ opened _ reaches orderly =>
    obtain ⟨since, left, untold⟩ :=
      reaches.untold (bareFeed_steady fuel) (orderly.since.ended opened) opened (orderly.untold opened)
    exact since.orderly.telling untold.closed (untold.made _ List.mem_cons_self) (untold.untold _ List.mem_cons_self) _
  | toldLate label _ closed orderly =>
    exact orderly.taken.telling closed (Nat.lt_succ_self _) orderly.made_not_mem_allTold label

/-- No subscriber that the emission calls fails. -/
def FeedWorld.Calm (world : FeedWorld) (fuel : Nat) (change : Change Number) : Prop :=
  ∀ subscription reached, Run.Reaches
      (Run.deliver (bareFeed.act fuel) bareFeed.describe (emissions world.trace) change) world.feed.subscriptions
      (world.emitting change) subscription reached →
    ((Run.all (bareFeed.act fuel)
      (subscription.onEvent (reached.callOf (emissions world.trace) change subscription))).outcome
        (reached.calling (emissions world.trace) change subscription)).1 = .ok ()

/-- What those who act may depend on. -/
structure FeedWorld.Dependable (world : FeedWorld) : Prop where
  /-- The feed has the subscriptions that were made and have not ended. -/
  present : world.feed.subscriptions.map (·.token) = present world.trace
  /-- An emission calls all subscribers that there are as it begins, in their order. -/
  reaches : ∀ fuel change, world.feed.closed = false → world.Calm fuel change →
    ∃ after, (bareFeed.act (fuel + 1) (.request (.emit change))).outcome world = (.ok (), after) ∧
      calls (emissions world.trace) world.trace = [] ∧
      calls (emissions world.trace) after.trace =
        world.feed.subscriptions.map fun subscription => (subscription.token, change)
  /-- Whatever happens, an emission calls nobody but them, in their order and each at most once. -/
  bounded : ∀ later change earlier, world.trace = later ++ .emitted change :: earlier →
    calls (emissions earlier) world.trace <+: (Occurrence.present earlier).map (·, change)
  /-- A subscription that is made later does not see the event. -/
  unseen : ∀ later change earlier token, world.trace = later ++ .emitted change :: earlier →
    .subscribed token ∈ later → token ∉ (calls (emissions earlier) world.trace).map Prod.fst
  /-- To emit an event once the feed has ended does nothing. -/
  silent : ∀ fuel change, world.feed.closed = true →
    (bareFeed.act (fuel + 1) (.request (.emit change))).outcome world = (.ok (), world)
  /-- Nobody is told of the end of the feed twice. -/
  once : (allTold world.trace).Nodup
  /-- As the feed ends, all subscribers that there are and want to be told are told. -/
  ends : ∀ fuel, world.feed.closed = false → ∀ subscription ∈ world.feed.subscriptions,
    (allTold ((bareFeed.act (fuel + 1) (.request .close)).leaves world).trace).count subscription.token =
      if subscription.onClose.isSome then 1 else 0
  /-- Who subscribes once the feed has ended is told so. -/
  tellsLate : ∀ fuel label onEvent actions, world.feed.closed = true →
    (allTold ((bareFeed.act (fuel + 1) (.subscribe label onEvent (some actions))).leaves world).trace).count
      world.feed.made = 1
  /-- To give up a subscription, any number of times, leaves all others as they are. -/
  separate : ∀ fuel label times,
    ((bareFeed.act (fuel + 1) (.unsubscribe label)).leaves^[times + 1] world).feed =
      { world.feed with
        subscriptions := world.feed.subscriptions.filter fun subscription =>
          some subscription.token != world.feed.latest.lookup label }

theorem FeedWorld.Calm.outcome_emit {world : FeedWorld} {fuel : Nat} {change : Change Number}
    (calm : world.Calm fuel change) (opened : world.feed.closed = false) :
    ((Run.emit (bareFeed.act fuel) bareFeed.describe change).outcome world).1 = .ok () := by
  rw [Run.outcome_emit opened]
  refine Run.outcome_deliverAll_of_reaches ?_
  intro subscription reached reaches
  have fine := calm subscription reached reaches
  rwa [Run.outcome_deliver, Run.outcome_tryCatch_ok fine]

theorem Moment.dependable {world : FeedWorld} (moment : Moment world) : world.Dependable where
  present := moment.orderly.present
  reaches fuel change opened calm := by
    have done := calm.outcome_emit opened
    exact ⟨_, Prod.ext done rfl, moment.orderly.history.calls_eq_nil (Nat.le_refl _),
      Run.calls_of_emit (bareFeed_steady fuel) moment.orderly opened done⟩
  bounded later change earlier split := by
    have history := moment.orderly.history
    have called := history.calls_prefix (emissions earlier)
    rw [split] at called ⊢
    rwa [Occurrence.audience_append (by simp [Occurrence.isEmission]), Occurrence.audience, if_pos rfl] at called
  unseen later change earlier token split subscribes := by
    have history := moment.orderly.history
    rw [split] at history ⊢
    exact history.not_called_of_subscribed subscribes
  silent fuel change closed := Run.outcome_emit_of_closed closed
  once := moment.orderly.history.allTold_nodup
  ends fuel opened subscription member := by
    have closes := bareFeed_steady (fuel + 1) (.request .close)
    rw [(closes.since moment.orderly).orderly.history.allTold_nodup.count]
    exact if_congr (Run.mem_allTold_of_close (bareFeed_steady fuel) moment.orderly opened member) rfl rfl
  tellsLate fuel label onEvent actions closed := by
    have subscribes := bareFeed_steady (fuel + 1) (.subscribe label onEvent (some actions))
    rw [(subscribes.since moment.orderly).orderly.history.allTold_nodup.count]
    exact if_pos (Run.mem_allTold_of_subscribe (bareFeed_steady fuel) moment.orderly closed label onEvent actions)
  separate fuel label times := by
    change ((Run.unsubscribe label).leaves^[times + 1] world).feed = _
    induction times with
    | zero => exact Run.feed_unsubscribe label
    | succ times ih =>
      rw [Function.iterate_succ_apply', Run.feed_unsubscribe, ih]
      simp

/-- Emits once more when it is first called, and then has another subscribe and gives up `b`. -/
def restless (delivery : Delivery (Change Number) Unit) : List FeedAction :=
  if delivery.emission = 0 then
    [.request (.emit .reset), .subscribe "c" (fun _ => []) none, .unsubscribe "b"]
  else []

/-- Two subscribe, the first of whom is restless. -/
def restlessWorld : FeedWorld :=
  (bareFeed.act 1 (.subscribe "b" (fun _ => []) (some []))).leaves
    ((bareFeed.act 1 (.subscribe "a" restless none)).leaves { state := () })

theorem dependable_while_restless :
    Moment restlessWorld ∧ restlessWorld.Calm 5 .reset ∧
    ∃ after, (bareFeed.act 6 (.request (.emit .reset))).outcome restlessWorld = (.ok (), after) ∧
      calls 0 after.trace = [(0, .reset), (1, .reset)] ∧ calls 1 after.trace = [(0, .reset), (1, .reset)] := by
  have moment : Moment restlessWorld := .acted _ _ (.acted _ _ .start)
  have calm : restlessWorld.Calm 5 .reset := by
    rintro _ _ (_ | ⟨done, _ | ⟨_, ⟨⟩⟩⟩)
    · rfl
    · cases done
      rfl
  obtain ⟨after, done, -, called⟩ := moment.dependable.reaches 5 .reset rfl calm
  refine ⟨moment, calm, after, done, called, ?_⟩
  cases done
  rfl

/-- What a subscriber may depend on once its subscription has ended. -/
structure FeedWorld.Parting (world : FeedWorld) : Prop where
  /-- Whatever is done from now on does not call it. -/
  spares : ∀ fuel action, ∃ news, ((bareFeed.act fuel action).leaves world).trace = news ++ world.trace ∧
    ∀ delivery ending, .delivered delivery ∈ news → ending ∈ world.trace → ¬ending.Ends delivery.token
  /-- If it was called since, then by an emission that had begun when the subscription ended and had not come to it. -/
  pending : ∀ later ending earlier delivery, world.trace = later ++ ending :: earlier →
    ending.Ends delivery.token → .delivered delivery ∈ later →
      delivery.emission < emissions earlier ∧ delivery.token ∉ (calls delivery.emission earlier).map Prod.fst
  /-- No emission calls a subscriber twice. -/
  once : ∀ emission, ((calls emission world.trace).map Prod.fst).Nodup

/-- Two subscribe, the first of whom gives up the subscription of the second as it is called. -/
def deserted : FeedWorld :=
  (bareFeed.act 3 (.request (.emit .reset))).leaves
    ((bareFeed.act 1 (.subscribe "b" (fun _ => []) none)).leaves
      ((bareFeed.act 1 (.subscribe "a" (fun _ => [.unsubscribe "b"]) none)).leaves { state := () }))

theorem moment_deserted : Moment deserted := .acted _ _ (.acted _ _ (.acted _ _ .start))

/-- What happens until the subscription is given up. -/
def beforeDeserted : List (Occurrence (Change Number) Unit) :=
  [.delivered ⟨0, "a", 0, .reset, [], ()⟩, .emitted .reset, .subscribed 1, .subscribed 0]

/-- The second is called all the same. -/
def afterDeserted : Delivery (Change Number) Unit := ⟨1, "b", 0, .reset, [], ()⟩

theorem trace_deserted : deserted.trace = [.delivered afterDeserted] ++ .unsubscribed 1 :: beforeDeserted := rfl

end Spreadsheet
