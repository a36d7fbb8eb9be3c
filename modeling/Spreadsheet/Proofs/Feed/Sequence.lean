import Spreadsheet.Proofs.Feed.Moments

/-! In which order events come to a subscriber of a bare feed. If no event is emitted while another one is on its way, a
subscriber receives all that are emitted while it is there, in the order of their emissions. An event that is emitted in
the course of another emission overtakes it: who has yet to be called with the other one is called with it first. -/
namespace Spreadsheet

namespace Occurrence
variable {Event State : Type} {token : Nat} {later earlier trace : List (Occurrence Event State)}

/-- The number of an emission and its event, if they come to a subscriber. -/
def receipt? (token : Nat) : Occurrence Event State → Option (Nat × Event)
  | delivered delivery => if delivery.token = token then some (delivery.emission, delivery.event) else none
  | _ => none

/-- The events that have come to a subscriber, each with the number of its emission, in the order in which they came. -/
def received (token : Nat) (trace : List (Occurrence Event State)) : List (Nat × Event) :=
  (trace.filterMap (receipt? token)).reverse

/-- What of some calls goes to a subscriber, each with the number of the emission that makes them. -/
def share (token emission : Nat) (calls : List (Nat × Event)) : List (Nat × Event) :=
  calls.filterMap fun call => if call.1 = token then some (emission, call.2) else none

/-- The events that were emitted while a subscription was there, in the order of their emissions. -/
def meant (token : Nat) (trace : List (Occurrence Event State)) : List (Nat × Event) :=
  (List.range (emissions trace)).flatMap fun emission => share token emission (audience emission trace)

theorem received_append : received token (later ++ earlier) = received token earlier ++ received token later := by
  simp [received]

theorem mem_received {emission : Nat} {event : Event} :
    (emission, event) ∈ received token trace ↔ ∃ delivery : Delivery Event State, delivered delivery ∈ trace ∧
      delivery.token = token ∧ delivery.emission = emission ∧ delivery.event = event := by
  simp only [received, List.mem_reverse, List.mem_filterMap]
  constructor
  · rintro ⟨occurrence, member, comes⟩
    cases occurrence with
    | delivered delivery =>
      simp only [receipt?, Option.ite_none_right_eq_some, Option.some.injEq, Prod.mk.injEq] at comes
      exact ⟨delivery, member, comes⟩
    | _ => cases comes
  · rintro ⟨delivery, member, rfl, rfl, rfl⟩
    exact ⟨_, member, if_pos rfl⟩

/-- What came first came in an earlier part of the trace. -/
theorem exists_of_sublist_received {first second : Nat × Event} (order : [first, second].Sublist (received token trace)) :
    ∃ later earlier, trace = later ++ earlier ∧ first ∈ received token earlier ∧ second ∈ received token later := by
  obtain ⟨front, back, whole, here, rest⟩ := List.cons_sublist_iff.mp order
  have split : trace.filterMap (receipt? token) = back.reverse ++ front.reverse := by
    rw [← List.reverse_append, ← whole, received, List.reverse_reverse]
  obtain ⟨later, earlier, rfl, new, old⟩ := List.filterMap_eq_append_iff.mp split
  refine ⟨later, earlier, rfl, ?_, ?_⟩
  · rwa [received, old, List.reverse_reverse]
  · rw [received, new, List.reverse_reverse]
    exact List.singleton_sublist.mp rest

/-- An emission to come has not come to anybody. -/
theorem History.emission_lt (history : History trace) {delivery : Delivery Event State} (delivers : delivered delivery ∈ trace) :
    delivery.emission < emissions trace := by
  by_contra ahead
  have called : (delivery.token, delivery.event) ∈ calls delivery.emission trace :=
    mem_calls.mpr ⟨delivery, delivers, rfl, rfl, rfl⟩
  rw [history.calls_eq_nil (Nat.le_of_not_lt ahead)] at called
  cases called

theorem Nested.of_append (nested : Nested (later ++ earlier)) : Nested earlier := by
  induction later with
  | nil => exact nested
  | cons occurrence rest ih =>
    cases occurrence with
    | delivered delivery => exact ih nested.2
    | _ => exact ih nested

/-- Of two events that come to a subscriber the one that was emitted first comes first if and only if it has come by the
time the other one is emitted. -/
theorem sublist_received_iff {emission : Nat} {event other change : Event}
    (history : History (later ++ emitted change :: earlier)) (nested : Nested (later ++ emitted change :: earlier))
    (outer : emission < emissions earlier)
    (second : (emissions earlier, other) ∈ received token (later ++ emitted change :: earlier)) :
    [(emission, event), (emissions earlier, other)].Sublist (received token (later ++ emitted change :: earlier)) ↔
      (emission, event) ∈ received token earlier := by
  constructor
  · intro order
    obtain ⟨recent, old, split, came, comes⟩ := exists_of_sublist_received order
    obtain ⟨call, calls, named, number, same⟩ := mem_received.mp came
    obtain ⟨last, calling, _, begun, _⟩ := mem_received.mp comes
    obtain ⟨after, between, rfl⟩ := List.append_of_mem calling
    obtain ⟨middle, before, rfl⟩ := List.append_of_mem calls
    -- Were the first one called after the other was emitted, the other would have ended by then.
    have few : emissions before ≤ emissions earlier := by
      rw [split, List.append_assoc, List.cons_append] at nested
      rw [← begun]
      exact nested.of_append.1 (between ++ middle) call before (by simp) (by rwa [number, begun])
    rw [← List.append_assoc] at split
    rcases List.append_eq_append_iff.mp split with ⟨rest, _, there⟩ | ⟨rest, _, there⟩
    · cases rest with
      | nil => cases there
      | cons occurrence rest =>
        obtain ⟨_, rfl⟩ := List.cons.inj (there.trans List.cons_append)
        exact mem_received.mpr ⟨call, by simp, named, number, same⟩
    · cases rest with
      | nil => cases there
      | cons occurrence rest =>
        obtain ⟨_, rfl⟩ := List.cons.inj (there.trans List.cons_append)
        rw [emissions_append, emissions_cons, isEmission, if_pos rfl] at few
        omega
  · intro came
    have whole : received token (later ++ emitted change :: earlier) =
        received token earlier ++ received token (later ++ [emitted change]) := by
      rw [← received_append, List.append_assoc, List.singleton_append]
    rw [whole, List.mem_append] at second
    rw [whole]
    refine (List.singleton_sublist.mpr came).append (List.singleton_sublist.mpr (second.resolve_left fun early => ?_))
    obtain ⟨delivery, delivers, _, number, _⟩ := mem_received.mp early
    exact absurd (history.of_append.2.emission_lt delivers) (by omega)

/-- Two that are in a list stand in one order or the other. -/
theorem sublist_or_sublist {α : Type} {a b : α} {list : List α} (here : a ∈ list) (there : b ∈ list) (different : a ≠ b) :
    [a, b].Sublist list ∨ [b, a].Sublist list := by
  obtain ⟨front, back, rfl⟩ := List.append_of_mem here
  rcases List.mem_append.mp there with before | after
  · exact .inr ((List.singleton_sublist.mpr before).append (List.singleton_sublist.mpr List.mem_cons_self))
  · have later := (List.mem_cons.mp after).resolve_left (Ne.symm different)
    exact .inl (((List.singleton_sublist.mpr later).cons_cons a).trans (List.sublist_append_right _ _))

/-- Whom an emission is for is settled as it begins, so that what is meant for a subscriber only grows. -/
theorem meant_append : meant token (later ++ earlier) = meant token earlier ++
    (List.range (emissions later)).flatMap fun index =>
      share token (emissions earlier + index) (audience (emissions earlier + index) (later ++ earlier)) := by
  unfold meant
  rw [emissions_append, Nat.add_comm, List.range_add, List.flatMap_append, List.flatMap_map]
  congr 1
  refine List.flatMap_congr fun emission begun => ?_
  rw [audience_append (List.mem_range.mp begun)]

theorem meant_append_of_le (few : emissions later ≤ 1) : meant token (later ++ earlier) = meant token earlier ++
    share token (emissions earlier) (audience (emissions earlier) (later ++ earlier)) := by
  rw [meant_append]
  rcases Nat.le_one_iff_eq_zero_or_eq_one.mp few with none | one
  · rw [none, audience_eq_nil (by rw [emissions_append]; omega)]
    rfl
  · rw [one]
    simp

/-- Calls by one emission come to a subscriber as its share. -/
theorem received_eq_share {emission : Nat}
    (only : ∀ delivery : Delivery Event State, delivered delivery ∈ trace → delivery.emission = emission) :
    received token trace = share token emission (calls emission trace) := by
  unfold received share calls
  rw [List.filterMap_reverse, List.filterMap_filterMap]
  congr 1
  refine List.filterMap_congr fun occurrence member => ?_
  cases occurrence with
  | delivered delivery => simp [receipt?, call?, only delivery member]
  | _ => rfl

/-- In a part of a trace with at most one emission, which calls all that it is for, a subscriber receives what is meant for
it. -/
theorem History.received_eq_meant (history : History (later ++ earlier)) (few : emissions later ≤ 1)
    (fresh : ∀ delivery : Delivery Event State, delivered delivery ∈ later → emissions earlier ≤ delivery.emission)
    (all : calls (emissions earlier) (later ++ earlier) = audience (emissions earlier) (later ++ earlier))
    (before : received token earlier = meant token earlier) :
    received token (later ++ earlier) = meant token (later ++ earlier) := by
  have only (delivery : Delivery Event State) (member : delivered delivery ∈ later) :
      delivery.emission = emissions earlier := by
    have begun := history.emission_lt (List.mem_append_left _ member)
    have new := fresh delivery member
    rw [emissions_append] at begun
    omega
  rw [received_append, meant_append_of_le few, before, received_eq_share only, ← all, calls_append,
    history.of_append.calls_eq_nil (Nat.le_refl _), List.nil_append]

/-- What is meant for a subscriber goes up with the numbers of the emissions. -/
theorem meant_pairwise : (meant token trace).Pairwise (·.1 ≤ ·.1) := by
  have numbered {emission : Nat} {calls : List (Nat × Event)} {call : Nat × Event}
      (member : call ∈ share token emission calls) : call.1 = emission := by
    obtain ⟨other, _, goes⟩ := List.mem_filterMap.mp member
    rw [Option.ite_none_right_eq_some, Option.some.injEq] at goes
    rw [← goes.2]
  unfold meant
  rw [List.pairwise_flatMap]
  refine ⟨fun emission _ => ?_, ?_⟩
  · refine List.pairwise_of_forall_mem_list fun first here second there => ?_
    exact Nat.le_of_eq ((numbered here).trans (numbered there).symm)
  · refine List.pairwise_lt_range.imp fun {emission later} less first here second there => ?_
    rw [numbered here, numbered there]
    exact Nat.le_of_lt less

/-- Of two events that are meant for a subscriber the one with the lesser number stands first. -/
theorem sublist_meant {first second : Nat × Event} (here : first ∈ meant token trace)
    (there : second ∈ meant token trace) (less : first.1 < second.1) : [first, second].Sublist (meant token trace) := by
  refine (sublist_or_sublist here there ?_).resolve_right fun after => ?_
  · rintro rfl
    exact Nat.lt_irrefl _ less
  · have order := List.pairwise_iff_forall_sublist.mp meant_pairwise after
    omega

theorem meant_cons_of_not {occurrence : Occurrence Event State} (silent : occurrence.isEmission = false) :
    meant token (occurrence :: earlier) = meant token earlier := by
  have same : meant token ([occurrence] ++ earlier) = _ := meant_append
  simpa [emissions, silent] using same

/-- An event is meant for those who are there as it is emitted. -/
theorem meant_emitted {event : Event} (history : History earlier) :
    meant token (emitted event :: earlier) =
      meant token earlier ++ if token ∈ present earlier then [(emissions earlier, event)] else [] := by
  have one (tokens : List Nat) (distinct : tokens.Nodup) : share token (emissions earlier) (tokens.map (·, event)) =
      if token ∈ tokens then [(emissions earlier, event)] else [] := by
    induction tokens with
    | nil => rfl
    | cons other rest ih =>
      obtain ⟨new, distinct⟩ := List.nodup_cons.mp distinct
      have others := ih distinct
      unfold share at others ⊢
      rw [List.map_cons, List.filterMap_cons, others]
      by_cases same : other = token
      · subst same
        simp [new]
      · simp [same, Ne.symm same]
  have grown : meant token ([emitted event] ++ earlier) = _ := meant_append_of_le (Nat.le_refl 1)
  rw [List.singleton_append] at grown
  rw [grown, audience, if_pos rfl, one _ history.present_nodup]

/-- Subscribers that stay have the same events in common. -/
theorem History.exists_common (history : History (later ++ earlier)) :
    ∃ common : List (Nat × Event), ∀ token ∈ present earlier, token ∈ present (later ++ earlier) →
      meant token (later ++ earlier) = meant token earlier ++ common := by
  induction later with
  | nil => exact ⟨[], fun _ _ _ => (List.append_nil _).symm⟩
  | cons occurrence rest ih =>
    obtain ⟨common, shared⟩ := ih history.2
    -- Whoever is there before and after is there in between, as no subscription comes back.
    have stayed (token : Nat) (before : token ∈ present earlier) (after : token ∈ present (occurrence :: (rest ++ earlier))) :
        token ∈ present (rest ++ earlier) := by
      cases occurrence with
      | subscribed other =>
        refine (List.mem_append.mp after).resolve_right fun new => ?_
        rw [List.mem_singleton] at new
        subst new
        exact history.1.2 _ (List.mem_append_right _ (mem_present before)) rfl
      | unsubscribed other => exact (List.mem_filter.mp after).1
      | closed state => cases after
      | _ => exact after
    by_cases emits : ∃ event, occurrence = emitted event
    · obtain ⟨event, rfl⟩ := emits
      refine ⟨common ++ [(emissions (rest ++ earlier), event)], fun token before after => ?_⟩
      have there := stayed token before after
      have now : meant token (emitted event :: (rest ++ earlier)) = _ := meant_emitted history.2
      rw [List.cons_append, now, if_pos there, shared token before there, List.append_assoc]
    · refine ⟨common, fun token before after => ?_⟩
      have silent : occurrence.isEmission = false := by
        cases occurrence with
        | emitted event => exact absurd ⟨event, rfl⟩ emits
        | _ => rfl
      rw [List.cons_append, meant_cons_of_not silent, shared token before (stayed token before after)]

end Occurrence

open Occurrence

/-- The feed has ended, after so many emissions. -/
def FeedWorld.Over (count : Nat) (world : FeedWorld) : Prop :=
  world.feed.closed = true ∧ emissions world.trace = count

namespace Run
variable {world : FeedWorld} {run : FeedAction → Run (Change Number) FeedRequest Unit Unit} {count : Nat}

theorem keeps_over_tell (kept : ∀ action, Keeps (FeedWorld.Over count) (run action)) (token : Nat) (label : String)
    (onClose : Option (List FeedAction)) : Keeps (FeedWorld.Over count) (tell run token label onClose) := by
  cases onClose with
  | none => exact keeps_pure _
  | some actions => exact keeps_bind (fun _ ended => ended) fun _ => keeps_all fun action _ => kept action

/-- Once the feed has ended, no event is emitted. -/
theorem keeps_over (fuel : Nat) (action : FeedAction) : Keeps (FeedWorld.Over count) (bareFeed.act fuel action) := by
  induction fuel generalizing action with
  | zero => exact keeps_throw _
  | succ fuel ih =>
    intro world ended
    cases action with
    | fail error => exact ended
    | subscribe label onEvent onClose =>
      change FeedWorld.Over count ((subscribe (bareFeed.act fuel) label onEvent onClose).leaves world)
      have told := keeps_over_tell ih world.feed.made label onClose
        { world with feed := { world.feed with made := world.feed.made + 1 } } ended
      unfold subscribe leaves
      rw [outcome_bind_ok outcome_feed, outcome_bind_ok (outcome_modifyFeed _), if_pos ended.1]
      exact leaves_bind told fun _ _ ended => ended
    | unsubscribe label =>
      change FeedWorld.Over count ((unsubscribe label).leaves world)
      unfold leaves
      rw [outcome_unsubscribe]
      cases world.feed.latest.lookup label <;> exact ended
    | request request =>
      cases request with
      | emit change =>
        change FeedWorld.Over count ((emit (bareFeed.act fuel) bareFeed.describe change).leaves world)
        unfold leaves
        rw [outcome_emit_of_closed ended.1]
        exact ended
      | close =>
        change FeedWorld.Over count ((close (bareFeed.act fuel)).leaves world)
        rw [leaves_close_of_closed ended.1]
        exact ended

end Run

/-- Nothing but a request to emit an event emits one, unless subscribers do so while they are called. -/
theorem emissions_of_not_emit {world : FeedWorld} (fuel : Nat) {action : FeedAction}
    (other : ∀ change, action ≠ .request (.emit change)) :
    emissions ((bareFeed.act fuel action).leaves world).trace = emissions world.trace := by
  by_cases closed : world.feed.closed = true
  · exact (Run.keeps_over fuel action world ⟨closed, rfl⟩).2
  · have opened : world.feed.closed = false := by simpa using closed
    cases fuel with
    | zero => rfl
    | succ fuel =>
      cases action with
      | fail error => rfl
      | subscribe label onEvent onClose =>
        change emissions ((Run.subscribe (bareFeed.act fuel) label onEvent onClose).leaves world).trace = _
        unfold Run.leaves
        rw [Run.outcome_subscribe _ label onEvent onClose opened]
        rfl
      | unsubscribe label =>
        change emissions ((Run.unsubscribe label).leaves world).trace = _
        unfold Run.leaves
        rw [Run.outcome_unsubscribe]
        cases world.feed.latest.lookup label <;> rfl
      | request request =>
        cases request with
        | emit change => exact absurd rfl (other change)
        | close =>
          have told : Run.Keeps (FeedWorld.Over (emissions world.trace))
              (Run.deliverAll (Run.tellSafely (bareFeed.act fuel)) world.feed.subscriptions) :=
            Run.keeps_deliverAll fun _ _ => Run.keeps_tryCatch (Run.keeps_over_tell (Run.keeps_over fuel) _ _ _)
              fun _ => Run.keeps_pure _
          change emissions ((Run.close (bareFeed.act fuel)).leaves world).trace = _
          unfold Run.leaves
          rw [Run.outcome_close opened]
          exact (told world.ended ⟨rfl, rfl⟩).2

/-- An emission that does not fail calls all that it is for. -/
theorem calls_of_emitted {world : FeedWorld} {fuel : Nat} {change : Change Number} (orderly : world.Orderly)
    (done : ((bareFeed.act fuel (.request (.emit change))).outcome world).1 = .ok ()) :
    calls (emissions world.trace) ((bareFeed.act fuel (.request (.emit change))).leaves world).trace =
      audience (emissions world.trace) ((bareFeed.act fuel (.request (.emit change))).leaves world).trace := by
  cases fuel with
  | zero => cases done
  | succ fuel =>
    change ((Run.emit (bareFeed.act fuel) bareFeed.describe change).outcome world).1 = .ok () at done
    change calls _ ((Run.emit (bareFeed.act fuel) bareFeed.describe change).leaves world).trace =
      audience _ ((Run.emit (bareFeed.act fuel) bareFeed.describe change).leaves world).trace
    unfold Run.leaves
    by_cases closed : world.feed.closed = true
    · rw [Run.outcome_emit_of_closed closed]
      rw [orderly.history.calls_eq_nil (Nat.le_refl _), audience_eq_nil (Nat.le_refl _)]
    · have opened : world.feed.closed = false := by simpa using closed
      rw [Run.outcome_emit opened] at done ⊢
      obtain ⟨left, awaited, ends⟩ :=
        Run.awaited_deliverAll bareFeed.describe (bareFeed_steady fuel) (orderly.awaited opened change)
      have all := awaited.calls
      rw [ends done, List.map_nil, List.append_nil] at all
      exact all.trans awaited.audience.symm

/-- A run in which no event is emitted while another one is on its way, and no emission fails. -/
inductive Unhurried : FeedWorld → Prop
  | start : Unhurried { state := () }
  | emitted {world : FeedWorld} (fuel : Nat) (change : Change Number) (unhurried : Unhurried world)
      (done : ((bareFeed.act fuel (.request (.emit change))).outcome world).1 = .ok ())
      (alone : emissions ((bareFeed.act fuel (.request (.emit change))).leaves world).trace ≤ emissions world.trace + 1) :
      Unhurried ((bareFeed.act fuel (.request (.emit change))).leaves world)
  | acted {world : FeedWorld} (fuel : Nat) (action : FeedAction) (unhurried : Unhurried world)
      (other : ∀ change, action ≠ .request (.emit change)) : Unhurried ((bareFeed.act fuel action).leaves world)

theorem Unhurried.orderly {world : FeedWorld} (unhurried : Unhurried world) : world.Orderly := by
  induction unhurried with
  | start => exact World.orderly_start ()
  | emitted fuel change _ _ _ orderly => exact ((bareFeed_steady fuel _).since orderly).orderly
  | acted fuel action _ _ orderly => exact ((bareFeed_steady fuel action).since orderly).orderly

/-- Whoever is there receives what is meant for it. -/
theorem Unhurried.received_eq_meant {world : FeedWorld} (unhurried : Unhurried world) (token : Nat) :
    received token world.trace = meant token world.trace := by
  induction unhurried with
  | start => rfl
  | @emitted world fuel change unhurried done alone before =>
    have orderly := unhurried.orderly
    have since := (bareFeed_steady fuel (.request (.emit change))).since orderly
    obtain ⟨news, trace, fresh⟩ := since.trace
    have history := since.orderly.history
    rw [trace] at history alone ⊢
    rw [emissions_append] at alone
    refine history.received_eq_meant (by omega) fresh.calls ?_ before
    rw [← trace]
    exact calls_of_emitted unhurried.orderly done
  | @acted world fuel action unhurried other before =>
    have since := (bareFeed_steady fuel action).since unhurried.orderly
    obtain ⟨news, trace, fresh⟩ := since.trace
    have history := since.orderly.history
    have silent : emissions ((bareFeed.act fuel action).leaves world).trace = emissions world.trace :=
      emissions_of_not_emit fuel other
    rw [trace] at history silent ⊢
    have ahead := Nat.le_of_eq silent
    rw [emissions_append] at silent
    refine history.received_eq_meant (by omega) fresh.calls ?_ before
    rw [history.calls_eq_nil ahead, audience_eq_nil ahead]

/-- In which order subscribers receive events. -/
structure FeedWorld.Sequenced (world : FeedWorld) : Prop where
  /-- An event that is emitted while another one is on its way comes after it to those whom that one had reached by then,
  and before it to all others. -/
  nested : ∀ later change earlier token emission event other, world.trace = later ++ .emitted change :: earlier →
    emission < emissions earlier → (emission, event) ∈ received token world.trace →
    (emissions earlier, other) ∈ received token world.trace →
      if (emission, event) ∈ received token earlier then
        [(emission, event), (emissions earlier, other)].Sublist (received token world.trace)
      else [(emissions earlier, other), (emission, event)].Sublist (received token world.trace)
  /-- Without such events, whoever is there as an event is emitted receives it. -/
  complete : Unhurried world → ∀ token, received token world.trace = meant token world.trace
  /-- Without such events, they are received in the order of their emissions. -/
  ordered : Unhurried world → ∀ token first second, first ∈ meant token world.trace →
    second ∈ meant token world.trace → first.1 < second.1 → [first, second].Sublist (received token world.trace)
  /-- Without such events, subscribers that stay receive the same. -/
  shared : Unhurried world → ∀ later earlier, world.trace = later ++ earlier →
    ∃ common, ∀ token ∈ present earlier, token ∈ present world.trace →
      received token world.trace = meant token earlier ++ common

theorem Moment.sequenced {world : FeedWorld} (moment : Moment world) : world.Sequenced where
  nested later change earlier token emission event other split outer first second := by
    have history := moment.orderly.history
    have nested := moment.orderly.nested
    rw [split] at history nested first second ⊢
    have order : [(emission, event), (emissions earlier, other)].Sublist _ ↔ _ :=
      sublist_received_iff history nested outer second
    split
    · exact order.mpr ‹_›
    · refine (sublist_or_sublist first second ?_).resolve_left fun before => ‹¬_› (order.mp before)
      rintro ⟨⟩
      exact Nat.lt_irrefl _ outer
  complete unhurried := unhurried.received_eq_meant
  ordered unhurried token first second here there less := by
    rw [unhurried.received_eq_meant token]
    exact sublist_meant here there less
  shared unhurried later earlier split := by
    have history := moment.orderly.history
    rw [split] at history
    obtain ⟨common, shared⟩ := history.exists_common
    refine ⟨common, fun token before after => ?_⟩
    rw [unhurried.received_eq_meant token, split]
    exact shared token before (split ▸ after)

/-- Emits another event when it is first called. -/
def hasty (delivery : Delivery (Change Number) Unit) : List FeedAction :=
  if delivery.emission = 0 then [.request (.emit (.rowInserted 0))] else []

/-- Two subscribe, the first of whom is hasty, and an event is emitted. -/
def hastyWorld : FeedWorld :=
  (bareFeed.act 4 (.request (.emit .reset))).leaves
    ((bareFeed.act 1 (.subscribe "b" (fun _ => []) none)).leaves
      ((bareFeed.act 1 (.subscribe "a" hasty none)).leaves { state := () }))

theorem moment_hastyWorld : Moment hastyWorld := .acted _ _ (.acted _ _ (.acted _ _ .start))

/-- What happens until the first subscriber emits its event. -/
def beforeHaste : List (Occurrence (Change Number) Unit) :=
  [.delivered ⟨0, "a", 0, .reset, [], ()⟩, .emitted .reset, .subscribed 1, .subscribed 0]

/-- What happens from then on. -/
def afterHaste : List (Occurrence (Change Number) Unit) :=
  [.delivered ⟨1, "b", 0, .reset, [.rowInserted 0], ()⟩, .delivered ⟨1, "b", 1, .rowInserted 0, [], ()⟩,
    .delivered ⟨0, "a", 1, .rowInserted 0, [.reset], ()⟩]

theorem trace_hastyWorld : hastyWorld.trace = afterHaste ++ .emitted (.rowInserted 0) :: beforeHaste := rfl

/-- Subscribes and does nothing when called. -/
def idle (label : String) : FeedAction := .subscribe label (fun _ => []) none

def patient : FeedWorld := (bareFeed.act 1 (idle "b")).leaves ((bareFeed.act 1 (idle "a")).leaves { state := () })

/-- An event is emitted for two who are idle. -/
def patientOnce : FeedWorld := (bareFeed.act 4 (.request (.emit .reset))).leaves patient

/-- Another one is emitted. -/
def patientTwice : FeedWorld := (bareFeed.act 4 (.request (.emit (.rowInserted 0)))).leaves patientOnce

theorem unhurried_patientTwice : Unhurried patientTwice := by
  have subscribes (label : String) (change : Change Number) : idle label ≠ .request (.emit change) := by simp [idle]
  have calm : Unhurried patient := .acted 1 (idle "b") (.acted 1 (idle "a") .start (subscribes "a")) (subscribes "b")
  have once : Unhurried patientOnce := .emitted 4 .reset calm rfl (Nat.le_refl 1)
  exact .emitted 4 (.rowInserted 0) once rfl (Nat.le_refl 2)

theorem sequenced_while_hasty :
    [(1, .rowInserted 0), (0, .reset)].Sublist (received 1 hastyWorld.trace) ∧
      received 1 patientTwice.trace = meant 1 patientTwice.trace ∧
      meant 1 patientTwice.trace = [(0, .reset), (1, .rowInserted 0)] := by
  have moment : Moment patientTwice := .acted 4 _ (.acted 4 _ (.acted 1 _ (.acted 1 _ .start)))
  refine ⟨?_, moment.sequenced.complete unhurried_patientTwice 1, rfl⟩
  exact moment_hastyWorld.sequenced.nested afterHaste (.rowInserted 0) beforeHaste 1 0 .reset (.rowInserted 0)
    trace_hastyWorld (by decide) (by decide) (by decide)

/-- A subscriber may receive an event before one that was emitted before it, though it was there for both. -/
theorem overtaken_while_hasty :
    ¬∀ world : FeedWorld, Moment world → ∀ token first second, first ∈ meant token world.trace →
      second ∈ meant token world.trace → first.1 < second.1 → [first, second].Sublist (received token world.trace) :=
  fun ordered => absurd (ordered _ moment_hastyWorld 1 (0, .reset) (1, .rowInserted 0) (by decide) (by decide) (by decide))
    (by decide)

end Spreadsheet
