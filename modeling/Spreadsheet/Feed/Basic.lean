import Spreadsheet.Error

/-! A feed of events and its subscribers. What a subscriber does is a program of actions, so that subscribers may
subscribe, unsubscribe and make requests of the host while an event is being delivered. A trace holds all that
happens to a feed. -/
namespace Spreadsheet

/-- A call of a subscriber with an event: by which emission it comes, the events of earlier calls, the latest first,
and the state of the host, which the subscriber may read. -/
structure Delivery (Event State : Type) where
  token : Nat
  label : String
  emission : Nat
  event : Event
  earlier : List Event
  state : State

/-- One thing that a subscriber does. A label names the latest subscription made under it. -/
inductive Action (Event Request State : Type) where
  | fail (error : SheetError)
  | subscribe (label : String) (onEvent : Delivery Event State → List (Action Event Request State))
      (onClose : Option (List (Action Event Request State)))
  | unsubscribe (label : String)
  | request (request : Request)

/-- A subscriber; one without a program for the end of the feed is not told of it. -/
structure Subscription (Event Request State : Type) where
  token : Nat
  label : String
  onEvent : Delivery Event State → List (Action Event Request State)
  onClose : Option (List (Action Event Request State))

/-- Subscriptions in the order in which they were made. Tokens count all subscriptions ever made. -/
structure Feed (Event Request State : Type) where
  subscriptions : List (Subscription Event Request State) := []
  made : Nat := 0
  latest : List (String × Nat) := []
  closed : Bool := false

/-- What happens to a feed: subscriptions begin and end, events are emitted and delivered, and at the end of the
feed, which comes in some state of the host, its subscribers are told. -/
inductive Occurrence (Event State : Type) where
  | subscribed (token : Nat)
  | unsubscribed (token : Nat)
  | emitted (event : Event)
  | delivered (delivery : Delivery Event State)
  | closed (state : State)
  | told (token : Nat) (label : String)

namespace Occurrence
variable {Event State : Type}

def isEmission : Occurrence Event State → Bool
  | emitted _ => true
  | _ => false

/-- The event, if it was delivered to the subscription with a token. -/
def eventFor? (token : Nat) : Occurrence Event State → Option Event
  | delivered delivery => if delivery.token = token then some delivery.event else none
  | _ => none

end Occurrence

/-- The state of a host, its feed, and what happened to the feed so far, the latest first. -/
structure World (Event Request State : Type) where
  state : State
  feed : Feed Event Request State := {}
  trace : List (Occurrence Event State) := []

/-- A computation in a world. What it did before it failed stays done. -/
abbrev Run (Event Request State α : Type) := ExceptT SheetError (StateM (World Event Request State)) α

namespace Run
variable {Event Request State : Type}

def state : Run Event Request State State := return (← get).state

def modifyState (f : State → State) : Run Event Request State Unit :=
  modify fun world => { world with state := f world.state }

def feed : Run Event Request State (Feed Event Request State) := return (← get).feed

def modifyFeed (f : Feed Event Request State → Feed Event Request State) : Run Event Request State Unit :=
  modify fun world => { world with feed := f world.feed }

def record (occurrence : Occurrence Event State) : Run Event Request State Unit :=
  modify fun world => { world with trace := occurrence :: world.trace }

def trace : Run Event Request State (List (Occurrence Event State)) := return (← get).trace

/-- Fails as a computation without a world fails. -/
def lift {α : Type} (result : Except SheetError α) : Run Event Request State α := ExceptT.mk (pure result)

/-- The outcome of a computation that may fail. -/
def attempt {α : Type} (run : Run Event Request State α) : Run Event Request State (Except SheetError α) :=
  ExceptT.lift run.run

/-- Runs actions until one fails. -/
def all (run : Action Event Request State → Run Event Request State Unit) :
    List (Action Event Request State) → Run Event Request State Unit
  | [] => pure ()
  | action :: rest => do
    run action
    all run rest

/-- Calls a subscriber with an event. A failure ends there, once the event has been described for the record. -/
def deliver (run : Action Event Request State → Run Event Request State Unit)
    (describe : Event → Except SheetError String) (emission : Nat) (event : Event)
    (subscription : Subscription Event Request State) : Run Event Request State Unit := do
  let earlier := (← trace).filterMap (Occurrence.eventFor? subscription.token)
  let delivery : Delivery Event State :=
    ⟨subscription.token, subscription.label, emission, event, earlier, ← state⟩
  record (.delivered delivery)
  tryCatch (all run (subscription.onEvent delivery)) fun _ => do
    let _ ← lift (describe event)

/-- Delivers to subscriptions in turn, until one fails. -/
def deliverAll (deliverTo : Subscription Event Request State → Run Event Request State Unit) :
    List (Subscription Event Request State) → Run Event Request State Unit
  | [] => pure ()
  | subscription :: rest => do
    deliverTo subscription
    deliverAll deliverTo rest

/-- Delivers an event to the subscriptions that there are at the start. A closed feed delivers nothing. -/
def emit (run : Action Event Request State → Run Event Request State Unit)
    (describe : Event → Except SheetError String) (event : Event) : Run Event Request State Unit := do
  let feed ← Run.feed
  if feed.closed then return
  let emission := (← trace).countP Occurrence.isEmission
  record (.emitted event)
  deliverAll (deliver run describe emission event) feed.subscriptions

/-- Tells a subscriber of the end of the feed. -/
def tell (run : Action Event Request State → Run Event Request State Unit) (token : Nat) (label : String) :
    Option (List (Action Event Request State)) → Run Event Request State Unit
  | none => pure ()
  | some actions => do
    record (.told token label)
    all run actions

/-- Ends the feed: no subscription is left, and each subscriber is told once, whatever the others do. -/
def close (run : Action Event Request State → Run Event Request State Unit) : Run Event Request State Unit := do
  let feed ← Run.feed
  if feed.closed then return
  modifyFeed fun feed => { feed with closed := true, subscriptions := [] }
  record (.closed (← state))
  deliverAll
    (fun subscription =>
      tryCatch (tell run subscription.token subscription.label subscription.onClose) fun _ => pure ())
    feed.subscriptions

/-- Adds a subscription for the events to come. On a closed feed the subscriber is told of the end at once. -/
def subscribe (run : Action Event Request State → Run Event Request State Unit) (label : String)
    (onEvent : Delivery Event State → List (Action Event Request State))
    (onClose : Option (List (Action Event Request State))) : Run Event Request State Unit := do
  let feed ← Run.feed
  let token := feed.made
  modifyFeed fun feed => { feed with made := feed.made + 1 }
  if feed.closed then tell run token label onClose
  else
    record (.subscribed token)
    modifyFeed fun feed =>
      { feed with subscriptions := feed.subscriptions ++ [⟨token, label, onEvent, onClose⟩] }
  modifyFeed fun feed => { feed with latest := (label, token) :: feed.latest }

/-- Ends the latest subscription under a label. Others stay, and a second time does nothing. -/
def unsubscribe (label : String) : Run Event Request State Unit := do
  match (← feed).latest.lookup label with
  | none => pure ()
  | some token =>
    record (.unsubscribed token)
    modifyFeed fun feed => { feed with subscriptions := feed.subscriptions.filter (·.token != token) }

end Run

/-- A host answers requests; it is given the ways to publish an event and to end the feed. -/
structure Host (Event Request State : Type) where
  describe : Event → Except SheetError String
  perform : (publish : Event → Run Event Request State Unit) → (close : Run Event Request State Unit) → Request →
    Run Event Request State Unit

namespace Host
variable {Event Request State : Type}

/-- Runs an action. The fuel bounds how deep calls of subscribers are nested; where it ends, an action fails. -/
def act (host : Host Event Request State) : (fuel : Nat) → Action Event Request State → Run Event Request State Unit
  | 0, _ => throw (.reported "Calls are nested too deeply")
  | _ + 1, .fail error => throw error
  | fuel + 1, .subscribe label onEvent onClose => Run.subscribe (host.act fuel) label onEvent onClose
  | _ + 1, .unsubscribe label => Run.unsubscribe label
  | fuel + 1, .request request =>
    host.perform (Run.emit (host.act fuel) host.describe) (Run.close (host.act fuel)) request

/-- How deep calls of subscribers may be nested. -/
def maxNesting : Nat := 10000

/-- Delivers an event to the subscribers of the host. -/
def publish (host : Host Event Request State) : Event → Run Event Request State Unit :=
  Run.emit (host.act maxNesting) host.describe

/-- Ends the feed of the host. -/
def close (host : Host Event Request State) : Run Event Request State Unit := Run.close (host.act maxNesting)

/-- Subscribes to the feed of the host. -/
def subscribe (host : Host Event Request State) (label : String)
    (onEvent : Delivery Event State → List (Action Event Request State))
    (onClose : Option (List (Action Event Request State))) : Run Event Request State Unit :=
  Run.subscribe (host.act maxNesting) label onEvent onClose

end Host
end Spreadsheet
