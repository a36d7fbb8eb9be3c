import Spreadsheet.Feed.Basic

/-! Computations in a world, told by the outcome that they have and the world that they leave. An invariant of worlds
that does not look at subscriptions holds while subscribers act, if every request keeps it. -/
namespace Spreadsheet

variable {Event Request State α β : Type}

namespace Run

/-- The outcome of a computation in a world, with the world that it leaves. -/
def outcome (run : Run Event Request State α) (world : World Event Request State) :
    Except SheetError α × World Event Request State := Id.run (StateT.run (ExceptT.run run) world)

/-- The world that a computation leaves. -/
def leaves (run : Run Event Request State α) (world : World Event Request State) : World Event Request State :=
  (run.outcome world).2

section outcomes
variable {world : World Event Request State}

@[simp] theorem outcome_pure (value : α) :
    (pure value : Run Event Request State α).outcome world = (.ok value, world) := rfl

@[simp] theorem outcome_throw (error : SheetError) :
    (throw error : Run Event Request State α).outcome world = (.error error, world) := rfl

@[simp] theorem outcome_lift (result : Except SheetError α) :
    (lift result : Run Event Request State α).outcome world = (result, world) := rfl

@[simp] theorem outcome_state : (state : Run Event Request State State).outcome world = (.ok world.state, world) := rfl

@[simp] theorem outcome_modifyState (f : State → State) :
    (modifyState f : Run Event Request State Unit).outcome world = (.ok (), { world with state := f world.state }) := rfl

@[simp] theorem outcome_feed : (feed : Run Event Request State _).outcome world = (.ok world.feed, world) := rfl

@[simp] theorem outcome_modifyFeed (f : Feed Event Request State → Feed Event Request State) :
    (modifyFeed f).outcome world = (.ok (), { world with feed := f world.feed }) := rfl

@[simp] theorem outcome_trace : (trace : Run Event Request State _).outcome world = (.ok world.trace, world) := rfl

@[simp] theorem outcome_record (occurrence : Occurrence Event State) :
    (record occurrence : Run Event Request State Unit).outcome world =
      (.ok (), { world with trace := occurrence :: world.trace }) := rfl

theorem outcome_bind (run : Run Event Request State α) (next : α → Run Event Request State β) :
    (run >>= next).outcome world =
      match run.outcome world with
      | (.ok value, after) => (next value).outcome after
      | (.error error, after) => (.error error, after) := by
  unfold outcome ExceptT.run StateT.run Id.run
  simp only [bind, ExceptT.bind, ExceptT.mk, ExceptT.bindCont, StateT.bind]
  cases run world with
  | mk result after => cases result <;> rfl

theorem outcome_bind_ok {run : Run Event Request State α} {next : α → Run Event Request State β}
    {value : α} {after : World Event Request State} (done : run.outcome world = (.ok value, after)) :
    (run >>= next).outcome world = (next value).outcome after := by rw [outcome_bind, done]

theorem outcome_bind_error {run : Run Event Request State α} {next : α → Run Event Request State β}
    {error : SheetError} {after : World Event Request State} (failed : run.outcome world = (.error error, after)) :
    (run >>= next).outcome world = (.error error, after) := by rw [outcome_bind, failed]

/-- What succeeds has succeeded in its parts. -/
theorem outcome_bind_eq_ok {run : Run Event Request State α} {next : α → Run Event Request State β} {value : β}
    {after : World Event Request State} (done : (run >>= next).outcome world = (.ok value, after)) :
    ∃ found middle, run.outcome world = (.ok found, middle) ∧ (next found).outcome middle = (.ok value, after) := by
  rw [outcome_bind] at done
  split at done
  · rename_i found middle same
    exact ⟨found, middle, same, done⟩
  · cases done

/-- Each answer of a walk over items is the answer to one of them. -/
theorem exists_of_mem_mapM {f : α → Run Event Request State β} {items : List α} {values : List β}
    {after : World Event Request State} (done : (items.mapM f).outcome world = (.ok values, after)) :
    ∀ value ∈ values, ∃ item ∈ items, ∃ before middle, (f item).outcome before = (.ok value, middle) := by
  induction items generalizing world values with
  | nil =>
    cases done
    simp
  | cons item rest ih =>
    rw [List.mapM_cons] at done
    obtain ⟨value, middle, first, others⟩ := outcome_bind_eq_ok done
    obtain ⟨found, last, walked, same⟩ := outcome_bind_eq_ok others
    cases same
    rw [List.forall_mem_cons]
    refine ⟨⟨item, List.mem_cons_self, world, middle, first⟩, fun value member => ?_⟩
    obtain ⟨other, listed, answered⟩ := ih walked value member
    exact ⟨other, List.mem_cons_of_mem _ listed, answered⟩

@[simp] theorem outcome_attempt (run : Run Event Request State α) :
    (attempt run).outcome world = (.ok (run.outcome world).1, (run.outcome world).2) := rfl

theorem outcome_tryCatch (run : Run Event Request State α) (handler : SheetError → Run Event Request State α) :
    (tryCatch run handler).outcome world =
      match run.outcome world with
      | (.ok value, after) => (.ok value, after)
      | (.error error, after) => (handler error).outcome after := by
  unfold outcome ExceptT.run StateT.run Id.run
  simp only [tryCatch, tryCatchThe, MonadExceptOf.tryCatch, ExceptT.tryCatch, ExceptT.mk, bind, StateT.bind]
  cases run world with
  | mk result after => cases result <;> rfl

@[simp] theorem outcome_bind_unit (run : Run Event Request State Unit) :
    (run >>= fun _ => pure ()).outcome world = run.outcome world := by
  rw [outcome_bind]
  split <;> simp_all

/-- What is answered at the end does not matter to the world. -/
@[simp] theorem leaves_bind_pure (run : Run Event Request State α) (answer : α → β) :
    (run >>= fun value => pure (answer value)).leaves world = run.leaves world := by
  unfold leaves
  rw [outcome_bind]
  split <;> simp_all

/-- Nor does it whether a result is given on at the end. -/
@[simp] theorem leaves_bind_lift (run : Run Event Request State α) (result : Except SheetError β) :
    (run >>= fun _ => lift result).leaves world = run.leaves world := by
  unfold leaves
  rw [outcome_bind]
  split <;> simp_all

@[simp] theorem leaves_forM_singleton (publish : Event → Run Event Request State Unit) (event : Event) :
    ([event].forM publish).leaves world = (publish event).leaves world := leaves_bind_pure _ _

end outcomes

/-- A computation keeps a property of worlds, whether it succeeds or fails. -/
def Keeps (inv : World Event Request State → Prop) (run : Run Event Request State α) : Prop :=
  ∀ world, inv world → inv (run.leaves world)

section keeping
variable {inv : World Event Request State → Prop}

theorem keeps_pure (value : α) : Keeps inv (pure value : Run Event Request State α) := fun _ holds => holds

theorem keeps_throw (error : SheetError) : Keeps inv (throw error : Run Event Request State α) := fun _ holds => holds

theorem keeps_lift (result : Except SheetError α) : Keeps inv (lift result : Run Event Request State α) :=
  fun _ holds => holds

theorem leaves_bind {run : Run Event Request State α} {next : α → Run Event Request State β}
    {world : World Event Request State} (first : inv (run.leaves world)) (second : ∀ value, Keeps inv (next value)) :
    inv ((run >>= next).leaves world) := by
  unfold leaves at first ⊢
  rw [outcome_bind]
  split <;> rename_i same <;> rw [same] at first
  · exact second _ _ first
  · exact first

theorem keeps_bind {run : Run Event Request State α} {next : α → Run Event Request State β} (first : Keeps inv run)
    (second : ∀ value, Keeps inv (next value)) : Keeps inv (run >>= next) :=
  fun world holds => leaves_bind (first world holds) second

/-- What is read of a world leaves it as it is, and may be used to keep a property. -/
theorem keeps_read {run : Run Event Request State α} {value : World Event Request State → α}
    {next : α → Run Event Request State β} (reads : ∀ world, run.outcome world = (.ok (value world), world))
    (rest : ∀ world, inv world → inv ((next (value world)).leaves world)) : Keeps inv (run >>= next) := by
  intro world holds
  unfold leaves
  rw [outcome_bind_ok (reads world)]
  exact rest world holds

theorem keeps_attempt {run : Run Event Request State α} (kept : Keeps inv run) : Keeps inv (attempt run) := kept

theorem keeps_tryCatch {run : Run Event Request State α} {handler : SheetError → Run Event Request State α}
    (kept : Keeps inv run) (handled : ∀ error, Keeps inv (handler error)) : Keeps inv (tryCatch run handler) := by
  intro world holds
  have after := kept world holds
  unfold leaves at after ⊢
  rw [outcome_tryCatch]
  split <;> rename_i same <;> rw [same] at after
  · exact after
  · exact handled _ _ after

theorem keeps_forM {f : β → Run Event Request State Unit} {items : List β} (kept : ∀ item ∈ items, Keeps inv (f item)) :
    Keeps inv (items.forM f) := by
  induction items with
  | nil => exact keeps_pure _
  | cons item rest ih =>
    exact keeps_bind (kept item List.mem_cons_self) fun _ => ih fun item member =>
      kept item (List.mem_cons_of_mem _ member)

theorem keeps_mapM {f : β → Run Event Request State α} {items : List β} (kept : ∀ item ∈ items, Keeps inv (f item)) :
    Keeps inv (items.mapM f) := by
  induction items with
  | nil => exact keeps_pure _
  | cons item rest ih =>
    rw [List.mapM_cons]
    apply keeps_bind (kept item List.mem_cons_self)
    intro _
    exact keeps_bind (ih fun item member => kept item (List.mem_cons_of_mem _ member)) fun _ => keeps_pure _

end keeping
end Run

/-- What a subscriber does when it is told of an event, or of the end of the feed. -/
def Subscription.Does (subscription : Subscription Event Request State) :
    Option Event → Action Event Request State → Prop
  | some event, action => ∃ delivery, delivery.event = event ∧ action ∈ subscription.onEvent delivery
  | none, action => ∃ actions, subscription.onClose = some actions ∧ action ∈ actions

/-- The world as its feed ends, before subscribers are told. -/
def World.ended (world : World Event Request State) : World Event Request State :=
  { world with
    feed := { world.feed with closed := true, subscriptions := [] }
    trace := .closed world.state :: world.trace }

/-- A property of worlds that holds whatever happens to the subscriptions, as long as those that are added are fine and
the feed goes on. An occurrence is recorded as it happens: what a subscriber is shown is the state of the world. -/
structure World.Inert (fine : Subscription Event Request State → Prop) (inv : World Event Request State → Prop) :
    Prop where
  subscribers : ∀ world, inv world → ∀ subscription ∈ world.feed.subscriptions, fine subscription
  feed : ∀ world feed, inv world → feed.closed = world.feed.closed →
    (∀ subscription ∈ feed.subscriptions, fine subscription) → inv { world with feed }
  record : ∀ world occurrence, inv world →
    (∀ delivery, occurrence = .delivered delivery → delivery.state = world.state) →
    (∀ state, occurrence ≠ .closed state) → inv { world with trace := occurrence :: world.trace }

/-- What only looks at the state of the world may be asked for besides. -/
theorem World.Inert.and {fine : Subscription Event Request State → Prop} {inv : World Event Request State → Prop}
    (inert : World.Inert fine inv) (good : State → Prop) :
    World.Inert fine fun world => inv world ∧ good world.state where
  subscribers world holds := inert.subscribers world holds.1
  feed world feed holds goes among := ⟨inert.feed world feed holds.1 goes among, holds.2⟩
  record world occurrence holds shown goes := ⟨inert.record world occurrence holds.1 shown goes, holds.2⟩

/-- Such a property, but for what is emitted, the record of which may matter. -/
structure World.Patient (fine : Subscription Event Request State → Prop) (inv : World Event Request State → Prop) :
    Prop where
  subscribers : ∀ world, inv world → ∀ subscription ∈ world.feed.subscriptions, fine subscription
  feed : ∀ world feed, inv world → feed.closed = world.feed.closed →
    (∀ subscription ∈ feed.subscriptions, fine subscription) → inv { world with feed }
  record : ∀ world occurrence, inv world → occurrence.isEmission = false →
    (∀ delivery, occurrence = .delivered delivery → delivery.state = world.state) →
    (∀ state, occurrence ≠ .closed state) → inv { world with trace := occurrence :: world.trace }

theorem World.Inert.patient {fine : Subscription Event Request State → Prop} {inv : World Event Request State → Prop}
    (inert : World.Inert fine inv) : World.Patient fine inv where
  subscribers := inert.subscribers
  feed := inert.feed
  record world occurrence holds _ := inert.record world occurrence holds

namespace Run
variable {fine : Subscription Event Request State → Prop} {inv : World Event Request State → Prop}
  {run : Action Event Request State → Run Event Request State Unit}

theorem keeps_modifyFeed (patient : World.Patient fine inv) {f : Feed Event Request State → Feed Event Request State}
    (goes : ∀ feed, (f feed).closed = feed.closed)
    (kept : ∀ feed, (∀ subscription ∈ feed.subscriptions, fine subscription) →
      ∀ subscription ∈ (f feed).subscriptions, fine subscription) : Keeps inv (modifyFeed f) :=
  fun world holds => patient.feed world _ holds (goes _) (kept _ (patient.subscribers world holds))

theorem keeps_record (patient : World.Patient fine inv) {occurrence : Occurrence Event State}
    (quiet : occurrence.isEmission = false) (silent : ∀ delivery, occurrence ≠ .delivered delivery)
    (goes : ∀ state, occurrence ≠ .closed state) : Keeps inv (record occurrence) :=
  fun world holds => patient.record world _ holds quiet (fun delivery same => absurd same (silent delivery)) goes

theorem keeps_all {actions : List (Action Event Request State)} (runs : ∀ action ∈ actions, Keeps inv (run action)) :
    Keeps inv (all run actions) := by
  induction actions with
  | nil => exact keeps_pure _
  | cons action rest ih =>
    exact keeps_bind (runs action List.mem_cons_self) fun _ => ih fun action member =>
      runs action (List.mem_cons_of_mem _ member)

theorem keeps_deliver (patient : World.Patient fine inv) {event : Event}
    {subscription : Subscription Event Request State}
    (runs : ∀ action, subscription.Does (some event) action → Keeps inv (run action))
    (describe : Event → Except SheetError String) (emission : Nat) :
    Keeps inv (deliver run describe emission event subscription) := by
  refine keeps_read (fun _ => outcome_trace) ?_
  intro world holds
  unfold leaves
  rw [outcome_bind_ok outcome_state, outcome_bind_ok (outcome_record _)]
  refine keeps_tryCatch (keeps_all fun action member => runs action ⟨_, rfl, member⟩) ?_ _
    (patient.record world _ holds rfl ?_ ?_)
  · intro _
    exact keeps_bind (keeps_lift _) fun _ => keeps_pure _
  · intro delivery same
    cases same
    rfl
  · intro state same
    cases same

theorem keeps_deliverAll {deliverTo : Subscription Event Request State → Run Event Request State Unit}
    {subscriptions : List (Subscription Event Request State)}
    (delivers : ∀ subscription ∈ subscriptions, Keeps inv (deliverTo subscription)) :
    Keeps inv (deliverAll deliverTo subscriptions) := by
  induction subscriptions with
  | nil => exact keeps_pure _
  | cons subscription rest ih =>
    exact keeps_bind (delivers subscription List.mem_cons_self) fun _ => ih fun subscription member =>
      delivers subscription (List.mem_cons_of_mem _ member)

/-- An event is recorded before anyone is told of it. What holds then is kept. -/
theorem leaves_emit (patient : World.Patient fine inv) {event : Event}
    (runs : ∀ subscription, fine subscription → ∀ action, subscription.Does (some event) action →
      Keeps inv (run action))
    (describe : Event → Except SheetError String) {world : World Event Request State} (opened : world.feed.closed = false)
    (recorded : inv { world with trace := .emitted event :: world.trace }) :
    inv ((emit run describe event).leaves world) := by
  have among := patient.subscribers { world with trace := .emitted event :: world.trace } recorded
  unfold emit leaves
  rw [outcome_bind_ok outcome_feed, opened]
  rw [if_neg (by decide), outcome_bind_ok outcome_trace, outcome_bind_ok (outcome_record _)]
  refine keeps_deliverAll ?_ _ recorded
  exact fun subscription member => keeps_deliver patient (runs subscription (among subscription member)) describe _

theorem leaves_emit_of_closed (describe : Event → Except SheetError String) (event : Event)
    {world : World Event Request State} (closed : world.feed.closed = true) :
    (emit run describe event).leaves world = world := by
  unfold emit leaves
  rw [outcome_bind_ok outcome_feed, if_pos closed]
  rfl

theorem keeps_emit (inert : World.Inert fine inv) {event : Event}
    (runs : ∀ subscription, fine subscription → ∀ action, subscription.Does (some event) action →
      Keeps inv (run action))
    (describe : Event → Except SheetError String) : Keeps inv (emit run describe event) := by
  intro world holds
  cases closed : world.feed.closed with
  | true => rwa [leaves_emit_of_closed describe event closed]
  | false =>
    refine leaves_emit inert.patient runs describe closed (inert.record world _ holds ?_ ?_)
    · intro _ same
      cases same
    · intro _ same
      cases same

theorem keeps_tell (patient : World.Patient fine inv) {subscription : Subscription Event Request State}
    (runs : ∀ action, subscription.Does none action → Keeps inv (run action)) (token : Nat) (label : String) :
    Keeps inv (tell run token label subscription.onClose) := by
  cases given : subscription.onClose with
  | none => exact keeps_pure _
  | some actions =>
    refine keeps_bind (keeps_record patient rfl ?_ ?_) fun _ =>
      keeps_all fun action member => runs action ⟨_, given, member⟩
    · intro _ same
      cases same
    · intro _ same
      cases same

/-- A feed ends once. -/
theorem leaves_close_of_closed {world : World Event Request State} (closed : world.feed.closed = true) :
    (close run).leaves world = world := by
  unfold close leaves
  rw [outcome_bind_ok outcome_feed, if_pos closed]
  rfl

/-- A property that holds as the feed ends is kept while subscribers are told. -/
theorem leaves_close (patient : World.Patient fine inv)
    (runs : ∀ subscription, fine subscription → ∀ action, subscription.Does none action → Keeps inv (run action))
    {world : World Event Request State} (opened : world.feed.closed = false)
    (among : ∀ subscription ∈ world.feed.subscriptions, fine subscription) (ends : inv world.ended) :
    inv ((close run).leaves world) := by
  unfold close leaves
  rw [outcome_bind_ok outcome_feed, opened]
  rw [if_neg (by decide), outcome_bind_ok (outcome_modifyFeed _), outcome_bind_ok outcome_state,
    outcome_bind_ok (outcome_record _)]
  refine keeps_deliverAll ?_ world.ended ends
  intro subscription member
  exact keeps_tryCatch (keeps_tell patient (runs subscription (among subscription member)) _ _) fun _ => keeps_pure _

theorem keeps_subscribe (patient : World.Patient fine inv) {label : String}
    {onEvent : Delivery Event State → List (Action Event Request State)}
    {onClose : Option (List (Action Event Request State))} (added : ∀ token, fine ⟨token, label, onEvent, onClose⟩)
    (runs : ∀ token action, Subscription.Does ⟨token, label, onEvent, onClose⟩ none action → Keeps inv (run action)) :
    Keeps inv (subscribe run label onEvent onClose) := by
  refine keeps_read (fun _ => outcome_feed) ?_
  intro world holds
  have first : Keeps inv (modifyFeed fun feed : Feed Event Request State => { feed with made := feed.made + 1 }) :=
    keeps_modifyFeed patient (fun _ => rfl) fun _ earlier => earlier
  have last : Keeps inv (modifyFeed fun feed : Feed Event Request State =>
      { feed with latest := (label, world.feed.made) :: feed.latest }) :=
    keeps_modifyFeed patient (fun _ => rfl) fun _ earlier => earlier
  refine keeps_bind first ?_ world holds
  intro _
  by_cases closed : world.feed.closed = true
  · simp only [closed, ↓reduceIte]
    exact keeps_bind (keeps_tell patient (runs world.feed.made) _ _) fun _ => last
  · simp only [closed, Bool.false_eq_true, ↓reduceIte]
    refine keeps_bind (keeps_record patient rfl ?_ ?_) fun _ => ?_
    · intro _ same
      cases same
    · intro _ same
      cases same
    · refine keeps_bind (keeps_modifyFeed patient (fun _ => rfl) ?_) fun _ => last
      intro feed earlier subscription member
      rcases List.mem_append.mp member with old | new
      · exact earlier subscription old
      · rw [List.mem_singleton.mp new]
        exact added _

theorem keeps_unsubscribe (patient : World.Patient fine inv) (label : String) :
    Keeps inv (unsubscribe label : Run Event Request State Unit) := by
  refine keeps_read (fun _ => outcome_feed) ?_
  intro world holds
  split
  · exact holds
  · refine keeps_bind (keeps_record patient rfl ?_ ?_) (fun _ => ?_) world holds
    · intro _ same
      cases same
    · intro _ same
      cases same
    · exact keeps_modifyFeed patient (fun _ => rfl) fun feed earlier subscription member =>
        earlier subscription (List.mem_filter.mp member).1

end Run

/-- A feed that goes on and has one subscriber, who only reads. -/
structure Feed.Watched (feed : Feed Event Request State) : Prop where
  opened : feed.closed = false
  alone : ∃ watcher, feed.subscriptions = [watcher] ∧ ∀ delivery, watcher.onEvent delivery = []

namespace Run
variable {world : World Event Request State} (run : Action Event Request State → Run Event Request State Unit)

/-- Who only reads is called with the event, and nothing else happens. -/
theorem outcome_emit_of_watched (describe : Event → Except SheetError String) (watched : world.feed.Watched)
    (event : Event) :
    ∃ delivery : Delivery Event State, delivery.event = event ∧ delivery.state = world.state ∧
      (emit run describe event).outcome world =
        (.ok (), { world with trace := .delivered delivery :: .emitted event :: world.trace }) := by
  obtain ⟨watcher, alone, reads⟩ := watched.alone
  refine ⟨⟨watcher.token, watcher.label, world.trace.countP Occurrence.isEmission, event,
    (Occurrence.emitted event :: world.trace).filterMap (Occurrence.eventFor? watcher.token), world.state⟩, rfl, rfl, ?_⟩
  unfold emit
  rw [outcome_bind_ok outcome_feed, watched.opened, alone]
  rw [if_neg (by decide), outcome_bind_ok outcome_trace, outcome_bind_ok (outcome_record _)]
  refine (outcome_bind_unit _).trans ?_
  unfold deliver
  rw [outcome_bind_ok outcome_trace, outcome_bind_ok outcome_state, outcome_bind_ok (outcome_record _), outcome_tryCatch,
    reads]
  rfl

/-- A subscription to a feed that goes on. -/
theorem outcome_subscribe (label : String) (onEvent : Delivery Event State → List (Action Event Request State))
    (onClose : Option (List (Action Event Request State))) (opened : world.feed.closed = false) :
    (subscribe run label onEvent onClose).outcome world =
      (.ok (), { world with
        feed := { world.feed with
          subscriptions := world.feed.subscriptions ++ [⟨world.feed.made, label, onEvent, onClose⟩]
          made := world.feed.made + 1
          latest := (label, world.feed.made) :: world.feed.latest }
        trace := .subscribed world.feed.made :: world.trace }) := by
  have going : ¬world.feed.closed = true := by simp [opened]
  unfold subscribe
  rw [outcome_bind_ok outcome_feed, outcome_bind_ok (outcome_modifyFeed _), if_neg going]
  rfl

end Run

/-- What every request keeps, as long as publishing and closing keep it, actions of subscribers keep too, however
deep their calls are nested. -/
theorem Host.keeps_act {inv : World Event Request State → Prop} (inert : World.Inert (fun _ => True) inv)
    (ends : ∀ world, inv world → inv world.ended) (host : Host Event Request State)
    (performs : ∀ publish close, (∀ event, Run.Keeps inv (publish event)) → Run.Keeps inv close →
      ∀ request, Run.Keeps inv (host.perform publish close request))
    (fuel : Nat) (action : Action Event Request State) : Run.Keeps inv (host.act fuel action) := by
  induction fuel generalizing action with
  | zero => exact Run.keeps_throw _
  | succ fuel ih =>
    cases action with
    | fail error => exact Run.keeps_throw _
    | subscribe label onEvent onClose =>
      exact Run.keeps_subscribe inert.patient (fun _ => trivial) fun _ action _ => ih action
    | unsubscribe label => exact Run.keeps_unsubscribe inert.patient label
    | request request =>
      refine performs _ _ (fun event => ?_) (fun world holds => ?_) request
      · exact Run.keeps_emit inert (fun _ _ action _ => ih action) host.describe
      · by_cases closed : world.feed.closed = true
        · rwa [Run.leaves_close_of_closed closed]
        · exact Run.leaves_close inert.patient (fun _ _ action _ => ih action) (by simpa using closed) (fun _ _ => trivial)
            (ends world holds)

end Spreadsheet
