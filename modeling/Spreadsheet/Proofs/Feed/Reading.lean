import Spreadsheet.Proofs.Feed.Runs

/-! Runs in front of subscribers who only read. They take no part in what happens, so of such a run it is enough to say
what it answers and which state it leaves: the feed is as it was, and the trace is longer by what was told. -/
namespace Spreadsheet

variable {Event Request State α β : Type}

/-- No subscriber does anything when it is told of an event. -/
def Feed.OnlyRead (feed : Feed Event Request State) : Prop :=
  ∀ subscription ∈ feed.subscriptions, ∀ delivery, subscription.onEvent delivery = []

theorem Feed.onlyRead_of_nil {feed : Feed Event Request State} (alone : feed.subscriptions = []) : feed.OnlyRead := by
  intro subscription member
  rw [alone] at member
  cases member

namespace Run
variable {world : World Event Request State} {run : Run Event Request State α} {post : α → State → Prop}

/-- The run succeeds, and does no more than to change the state and to record what it tells. -/
def Succeeds (run : Run Event Request State α) (world : World Event Request State) (post : α → State → Prop) : Prop :=
  ∃ value state news, run.outcome world = (.ok value, { world with state, trace := news ++ world.trace }) ∧
    post value state

/-- A way to publish that only tells, as long as subscribers only read. -/
def OnlyTells (publish : Event → Run Event Request State Unit) : Prop :=
  ∀ (world : World Event Request State) event, world.feed.OnlyRead →
    Succeeds (publish event) world fun _ state => state = world.state

theorem succeeds_pure {value : α} (holds : post value world.state) :
    Succeeds (pure value : Run Event Request State α) world post := ⟨value, world.state, [], rfl, holds⟩

theorem succeeds_lift {result : Except SheetError α} {value : α} (passed : result = .ok value) :
    Succeeds (lift result : Run Event Request State α) world fun found state => found = value ∧ state = world.state :=
  ⟨value, world.state, [], by rw [outcome_lift, passed]; rfl, rfl, rfl⟩

theorem Succeeds.mono {weaker : α → State → Prop} (succeeds : Succeeds run world post)
    (imp : ∀ value state, post value state → weaker value state) : Succeeds run world weaker := by
  obtain ⟨value, state, news, done, holds⟩ := succeeds
  exact ⟨value, state, news, done, imp value state holds⟩

/-- A run may begin with a change of the state. -/
theorem Succeeds.of_outcome {other : Run Event Request State α} {state : State}
    (same : run.outcome world = other.outcome { world with state }) (rest : Succeeds other { world with state } post) :
    Succeeds run world post := by
  obtain ⟨value, last, news, done, holds⟩ := rest
  exact ⟨value, last, news, same.trans done, holds⟩

theorem Succeeds.bind {next : α → Run Event Request State β} {last : β → State → Prop} (first : Succeeds run world post)
    (second : ∀ value state news, post value state →
      Succeeds (next value) { world with state, trace := news ++ world.trace } last) :
    Succeeds (run >>= next) world last := by
  obtain ⟨value, state, news, done, holds⟩ := first
  obtain ⟨result, final, more, rest, ends⟩ := second value state news holds
  refine ⟨result, final, more ++ news, ?_, ends⟩
  rw [outcome_bind_ok done, rest, List.append_assoc]

/-- To be told of several events changes no more than to be told of one. -/
theorem succeeds_forM {publish : Event → Run Event Request State Unit} (tells : OnlyTells publish)
    (reads : world.feed.OnlyRead) (events : List Event) :
    Succeeds (events.forM publish) world fun _ state => state = world.state := by
  induction events generalizing world with
  | nil => exact succeeds_pure rfl
  | cons event rest ih =>
    refine (tells world event reads).bind ?_
    rintro _ _ news rfl
    exact ih reads

/-- A walk over items, each of which leaves a state that is ready for the rest of them; `done` relates what has been
answered so far. -/
theorem succeeds_mapM {ι : Type} {f : ι → Run Event Request State β} {ready : List ι → List β → State → Prop}
    (step : ∀ (world : World Event Request State) item rest earlier, world.feed.OnlyRead →
      ready (item :: rest) earlier world.state →
        Succeeds (f item) world fun value state => ready rest (earlier ++ [value]) state)
    (items : List ι) (earlier : List β) (reads : world.feed.OnlyRead) (starts : ready items earlier world.state) :
    Succeeds (items.mapM f) world fun values state => ready [] (earlier ++ values) state := by
  induction items generalizing world earlier with
  | nil => exact succeeds_pure (by simpa using starts)
  | cons item rest ih =>
    rw [List.mapM_cons]
    refine (step world item rest earlier reads starts).bind ?_
    intro value state news remains
    refine Succeeds.bind (ih (earlier ++ [value]) reads remains) ?_
    intro values last more ends
    exact succeeds_pure (by simpa using ends)

/-- The run is refused before anything has happened, or it succeeds. -/
def Atomic (run : Run Event Request State α) (world : World Event Request State) : Prop :=
  (∃ error, run.outcome world = (.error error, world)) ∨ Succeeds run world fun _ _ => True

theorem Succeeds.atomic (succeeds : Succeeds run world post) : Atomic run world :=
  .inr (succeeds.mono fun _ _ _ => trivial)

/-- What succeeds may be followed by what succeeds then. -/
theorem Succeeds.bind_atomic {next : α → Run Event Request State β} (first : Succeeds run world post)
    (second : ∀ value state news, post value state →
      Succeeds (next value) { world with state, trace := news ++ world.trace } fun _ _ => True) :
    Atomic (run >>= next) world := .inr (first.bind second)

theorem atomic_pure (value : α) : Atomic (pure value : Run Event Request State α) world :=
  .inr (succeeds_pure trivial)

theorem Atomic.of_outcome {other : Run Event Request State α} (atomic : Atomic other world)
    (same : run.outcome world = other.outcome world) : Atomic run world := by
  obtain ⟨error, refused⟩ | succeeds := atomic
  · exact .inl ⟨error, same.trans refused⟩
  · exact .inr (Succeeds.of_outcome same succeeds)

/-- What is answered makes no difference. -/
theorem Atomic.bind_pure (atomic : Atomic run world) (value : β) : Atomic (run >>= fun _ => pure value) world := by
  obtain ⟨error, refused⟩ | succeeds := atomic
  · exact .inl ⟨error, outcome_bind_error refused⟩
  · exact succeeds.bind_atomic fun _ _ _ _ => succeeds_pure trivial

theorem atomic_lift {result : Except SheetError α} {rest : α → Run Event Request State β}
    (passed : ∀ value, result = .ok value → Atomic (rest value) world) : Atomic (lift result >>= rest) world := by
  cases found : result with
  | error error => exact .inl ⟨error, outcome_bind_error (outcome_lift _)⟩
  | ok value => exact (passed value found).of_outcome (outcome_bind_ok (outcome_lift _))

/-- What fails has not begun. -/
theorem Atomic.eq_of_error {error : SheetError} {after : World Event Request State} (atomic : Atomic run world)
    (failed : run.outcome world = (.error error, after)) : after = world := by
  obtain ⟨_, refused⟩ | ⟨_, _, _, done, _⟩ := atomic
  · exact congrArg Prod.snd (failed.symm.trans refused)
  · cases failed.symm.trans done

variable (act : Action Event Request State → Run Event Request State Unit)

private theorem succeeds_deliver {subscription : Subscription Event Request State}
    (reads : ∀ delivery, subscription.onEvent delivery = []) (describe : Event → Except SheetError String)
    (emission : Nat) (event : Event) :
    Succeeds (deliver act describe emission event subscription) world fun _ state => state = world.state := by
  refine ⟨(), world.state, [.delivered ⟨subscription.token, subscription.label, emission, event,
    world.trace.filterMap (Occurrence.eventFor? subscription.token), world.state⟩], ?_, rfl⟩
  unfold deliver
  rw [outcome_bind_ok outcome_trace, outcome_bind_ok outcome_state, outcome_bind_ok (outcome_record _),
    outcome_tryCatch, reads]
  rfl

/-- Who only reads is told of an event, and nothing else happens. -/
theorem onlyTells_emit (describe : Event → Except SheetError String) : OnlyTells (emit act describe) := by
  have delivered (subscriptions : List (Subscription Event Request State)) (emission : Nat) (event : Event) :
      ∀ world : World Event Request State, (∀ subscription ∈ subscriptions, ∀ delivery, subscription.onEvent delivery = []) →
        Succeeds (deliverAll (deliver act describe emission event) subscriptions) world
          fun _ state => state = world.state := by
    induction subscriptions with
    | nil => exact fun world _ => succeeds_pure rfl
    | cons subscription rest ih =>
      intro world reads
      refine (succeeds_deliver act (reads subscription List.mem_cons_self) describe emission event).bind ?_
      rintro _ _ news rfl
      exact ih _ fun other member => reads other (List.mem_cons_of_mem _ member)
  intro world event reads
  unfold emit
  by_cases closed : world.feed.closed = true
  · refine ⟨(), world.state, [], ?_, rfl⟩
    rw [outcome_bind_ok outcome_feed, if_pos closed]
    rfl
  · obtain ⟨_, _, news, done, rfl⟩ := delivered world.feed.subscriptions (world.trace.countP Occurrence.isEmission) event
      { world with trace := .emitted event :: world.trace } reads
    refine ⟨(), world.state, news ++ [.emitted event], ?_, rfl⟩
    rw [outcome_bind_ok outcome_feed, if_neg closed, outcome_bind_ok outcome_trace, outcome_bind_ok (outcome_record _),
      done, List.append_assoc]
    rfl

end Run

/-- Who only reads may join. -/
theorem Feed.OnlyRead.subscribe {world : World Event Request State} (reads : world.feed.OnlyRead)
    (host : Host Event Request State) (fuel : Nat) (label : String)
    {onEvent : Delivery Event State → List (Action Event Request State)} (silent : ∀ delivery, onEvent delivery = []) :
    ((host.act (fuel + 1) (.subscribe label onEvent none)).leaves world).feed.OnlyRead := by
  have inert : World.Inert (fun subscription => ∀ delivery, subscription.onEvent delivery = [])
      fun world : World Event Request State => world.feed.OnlyRead :=
    ⟨fun _ holds => holds, fun _ _ _ _ fine => fine, fun _ _ holds _ _ => holds⟩
  refine Run.keeps_subscribe inert.patient (fun _ => silent) ?_ world reads
  rintro token action ⟨actions, none, _⟩
  cases none

end Spreadsheet
