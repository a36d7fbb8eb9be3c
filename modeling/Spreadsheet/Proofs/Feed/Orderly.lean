import Spreadsheet.Proofs.Feed.History
import Spreadsheet.Proofs.Feed.Runs

/-! Worlds whose feed is what their trace tells, and how one such world comes after another. Two things may be under way
in a world: an emission that has yet to call some of its audience, and the end of the feed, of which some subscribers
have yet to be told. Neither is disturbed by what else happens. -/
namespace Spreadsheet

variable {Event Request State : Type}

open Occurrence (Fits History Nested present audience calls emissions hasEnded allTold)

namespace World
variable {start middle world after : World Event Request State} {emission : Nat} {event : Event}

/-- The feed is what the trace tells of it, and subscriptions to come have tokens of their own. -/
structure Orderly (world : World Event Request State) : Prop where
  history : History world.trace
  nested : Nested world.trace
  present : world.feed.subscriptions.map (·.token) = present world.trace
  closed : world.feed.closed = hasEnded world.trace
  made : ∀ occurrence ∈ world.trace, ∀ token, occurrence.subject? = some token → token < world.feed.made
  latest : ∀ named ∈ world.feed.latest, named.2 < world.feed.made

theorem orderly_start (state : State) : Orderly ({ state } : World Event Request State) where
  history := trivial
  nested := trivial
  present := rfl
  closed := rfl
  made _ member := absurd member List.not_mem_nil
  latest _ member := absurd member List.not_mem_nil

theorem Orderly.mem_allTold {token : Nat} (orderly : world.Orderly) (member : token ∈ allTold world.trace) :
    token < world.feed.made := by
  obtain ⟨occurrence, there, tells⟩ := List.mem_filterMap.mp member
  cases occurrence with
  | told other label => exact orderly.made _ there token tells
  | _ => cases tells

/-- The next token has not been used. -/
theorem Orderly.made_not_mem_allTold (orderly : world.Orderly) : world.feed.made ∉ allTold world.trace :=
  fun member => Nat.lt_irrefl _ (orderly.mem_allTold member)

/-- Before the feed ends nobody is told that it did. -/
theorem Orderly.allTold_eq_nil (orderly : world.Orderly) (opened : world.feed.closed = false) :
    allTold world.trace = [] := by
  rw [List.eq_nil_iff_forall_not_mem]
  intro token member
  obtain ⟨occurrence, there, tells⟩ := List.mem_filterMap.mp member
  cases occurrence with
  | told other label =>
    obtain ⟨later, earlier, split⟩ := List.append_of_mem there
    have history := orderly.history
    have closed := orderly.closed
    rw [split] at history closed
    have ended : hasEnded earlier = true := history.fits.1
    simp [opened, hasEnded, show earlier.any Occurrence.isEnd = true from ended] at closed
  | _ => cases tells

/-- What is recorded without a change to the feed. -/
theorem Orderly.record {occurrence : Occurrence Event State} (orderly : world.Orderly)
    (fits : Fits world.trace occurrence) (nested : Nested (occurrence :: world.trace))
    (same : Occurrence.present (occurrence :: world.trace) = Occurrence.present world.trace)
    (goes : occurrence.isEnd = false) (made : ∀ token, occurrence.subject? = some token → token < world.feed.made) :
    Orderly { world with trace := occurrence :: world.trace } where
  history := ⟨fits, orderly.history⟩
  nested := nested
  present := orderly.present.trans same.symm
  closed := by
    rw [orderly.closed]
    simp [hasEnded, goes]
  made other member := by
    rcases List.mem_cons.mp member with rfl | before
    · exact made
    · exact orderly.made other before
  latest := orderly.latest

/-- A token may be taken without more. -/
theorem Orderly.taken (orderly : world.Orderly) :
    Orderly { world with feed := { world.feed with made := world.feed.made + 1 } } where
  history := orderly.history
  nested := orderly.nested
  present := orderly.present
  closed := orderly.closed
  made occurrence member token subject := Nat.lt_succ_of_lt (orderly.made occurrence member token subject)
  latest named member := Nat.lt_succ_of_lt (orderly.latest named member)

theorem Orderly.naming (orderly : world.Orderly) (label : String) {token : Nat} (made : token < world.feed.made) :
    Orderly { world with feed := { world.feed with latest := (label, token) :: world.feed.latest } } :=
  { orderly with
    latest := fun named member => by
      rcases List.mem_cons.mp member with rfl | before
      · exact made
      · exact orderly.latest named before }

theorem Orderly.joining (orderly : world.Orderly) (opened : world.feed.closed = false) (label : String)
    (onEvent : Delivery Event State → List (Action Event Request State))
    (onClose : Option (List (Action Event Request State))) :
    Orderly { world with
      feed := { world.feed with
        subscriptions := world.feed.subscriptions ++ [⟨world.feed.made, label, onEvent, onClose⟩]
        made := world.feed.made + 1 }
      trace := .subscribed world.feed.made :: world.trace } where
  history := by
    refine ⟨⟨orderly.closed.symm.trans opened, ?_⟩, orderly.history⟩
    intro occurrence member subject
    exact Nat.lt_irrefl _ (orderly.made occurrence member world.feed.made subject)
  nested := orderly.nested
  present := by simp [Occurrence.present, ← orderly.present]
  closed := orderly.closed
  made occurrence member token subject := by
    rcases List.mem_cons.mp member with rfl | before
    · cases subject
      exact Nat.lt_succ_self _
    · exact Nat.lt_succ_of_lt (orderly.made occurrence before token subject)
  latest named member := Nat.lt_succ_of_lt (orderly.latest named member)

theorem Orderly.ended (orderly : world.Orderly) (opened : world.feed.closed = false) : world.ended.Orderly where
  history := ⟨orderly.closed.symm.trans opened, orderly.history⟩
  nested := orderly.nested
  present := rfl
  closed := rfl
  made other member token subject := by
    rcases List.mem_cons.mp member with rfl | before
    · cases subject
    · exact orderly.made other before token subject
  latest := orderly.latest

/-- What may happen in the course of an action: an emission that began before calls nobody, and once the feed has ended
only who subscribes then is told so. -/
structure News (start : World Event Request State) (news : List (Occurrence Event State)) : Prop where
  calls : ∀ delivery, .delivered delivery ∈ news → emissions start.trace ≤ delivery.emission
  told : start.feed.closed = true → ∀ token ∈ allTold news, start.feed.made ≤ token

/-- A world in the course of an action, or after it. -/
structure Since (start world : World Event Request State) : Prop where
  orderly : world.Orderly
  made : start.feed.made ≤ world.feed.made
  closed : start.feed.closed = true → world.feed.closed = true
  trace : ∃ news, world.trace = news ++ start.trace ∧ News start news

theorem Orderly.since (orderly : world.Orderly) : Since world world where
  orderly := orderly
  made := Nat.le_refl _
  closed := id
  trace := ⟨[], rfl, nofun, fun _ => nofun⟩

theorem Since.emissions_le (since : Since start world) : emissions start.trace ≤ emissions world.trace := by
  obtain ⟨news, trace, -⟩ := since.trace
  rw [trace, Occurrence.emissions_append]
  exact Nat.le_add_left _ _

theorem Since.opened (since : Since start world) (opened : world.feed.closed = false) : start.feed.closed = false := by
  by_contra closed
  have ended := since.closed (by simpa using closed)
  simp [opened] at ended

theorem Since.trans (first : Since start middle) (second : Since middle world) : Since start world where
  orderly := second.orderly
  made := Nat.le_trans first.made second.made
  closed closed := second.closed (first.closed closed)
  trace := by
    obtain ⟨news, trace, fresh⟩ := first.trace
    obtain ⟨more, rest, newer⟩ := second.trace
    refine ⟨more ++ news, by rw [rest, trace, List.append_assoc], ?_, ?_⟩
    · intro delivery member
      rcases List.mem_append.mp member with late | early
      · exact Nat.le_trans first.emissions_le (newer.calls delivery late)
      · exact fresh.calls delivery early
    · intro closed token member
      rw [allTold, List.filterMap_append] at member
      rcases List.mem_append.mp member with late | early
      · exact Nat.le_trans first.made (newer.told (first.closed closed) token late)
      · exact fresh.told closed token early

/-- The feed may change while nothing happens that is told of. -/
theorem Since.feed (since : Since start world) {feed : Feed Event Request State} (orderly : Orderly { world with feed })
    (made : world.feed.made ≤ feed.made) (closed : world.feed.closed = true → feed.closed = true) :
    Since start { world with feed } where
  orderly := orderly
  made := Nat.le_trans since.made made
  closed ended := closed (since.closed ended)
  trace := since.trace

/-- Something happens. -/
theorem Since.next (since : Since start world) {occurrence : Occurrence Event State} (orderly : after.Orderly)
    (made : world.feed.made ≤ after.feed.made) (closed : world.feed.closed = true → after.feed.closed = true)
    (trace : after.trace = occurrence :: world.trace)
    (calls : ∀ delivery, occurrence = .delivered delivery → emissions start.trace ≤ delivery.emission)
    (told : start.feed.closed = true → ∀ token, occurrence.told? = some token → start.feed.made ≤ token) :
    Since start after where
  orderly := orderly
  made := Nat.le_trans since.made made
  closed ended := closed (since.closed ended)
  trace := by
    obtain ⟨news, before, fresh⟩ := since.trace
    refine ⟨occurrence :: news, by rw [trace, before, List.cons_append], ?_, ?_⟩
    · intro delivery member
      rcases List.mem_cons.mp member with now | earlier
      · exact calls delivery now.symm
      · exact fresh.calls delivery earlier
    · intro ended token member
      obtain ⟨other, there, tells⟩ := List.mem_filterMap.mp member
      rcases List.mem_cons.mp there with rfl | earlier
      · exact told ended token tells
      · exact fresh.told ended token (List.mem_filterMap.mpr ⟨other, earlier, tells⟩)

/-- A call by an earlier emission was made before the world from which on only later ones call. -/
theorem Since.emissions_of_call (since : Since start world) (later : List (Occurrence Event State))
    (call : Delivery Event State) (before : List (Occurrence Event State))
    (split : world.trace = later ++ .delivered call :: before) (outer : call.emission < emissions start.trace) :
    emissions before ≤ emissions start.trace := by
  obtain ⟨news, trace, fresh⟩ := since.trace
  rw [trace] at split
  rcases List.append_eq_append_iff.mp split with ⟨rest, _, old⟩ | ⟨rest, recent, new⟩
  · rw [old, Occurrence.emissions_append, Occurrence.emissions_cons]
    omega
  · cases rest with
    | nil =>
      rw [List.nil_append] at new
      rw [← new, Occurrence.emissions_cons]
      omega
    | cons occurrence rest =>
      obtain ⟨rfl, _⟩ := List.cons.inj new
      have inner := fresh.calls call (by simp [recent])
      omega

/-- An emission that is under way calls nobody but in its own turn. -/
theorem Since.calls_eq (since : Since start world) (begun : emission < emissions start.trace) :
    calls emission world.trace = calls emission start.trace := by
  obtain ⟨news, trace, fresh⟩ := since.trace
  rw [trace, Occurrence.calls_append_of_ne]
  intro delivery member same
  have late := fresh.calls delivery member
  omega

theorem Since.audience_eq (since : Since start world) (begun : emission < emissions start.trace) :
    audience emission world.trace = audience emission start.trace := by
  obtain ⟨news, trace, -⟩ := since.trace
  rw [trace, Occurrence.audience_append begun]

/-- Once the feed has ended, who had subscribed before is told of that by nothing but the end itself. -/
theorem Since.mem_allTold_iff (since : Since start world) (closed : start.feed.closed = true) {token : Nat}
    (old : token < start.feed.made) : token ∈ allTold world.trace ↔ token ∈ allTold start.trace := by
  obtain ⟨news, trace, fresh⟩ := since.trace
  rw [trace, allTold, List.filterMap_append, List.mem_append]
  constructor
  · rintro (late | early)
    · exact absurd (fresh.told closed token late) (by omega)
    · exact early
  · exact .inr

/-- The world as an event is emitted. -/
def emitting (world : World Event Request State) (event : Event) : World Event Request State :=
  { world with trace := .emitted event :: world.trace }

/-- The call of a subscriber that an emission makes in a world. -/
def callOf (world : World Event Request State) (emission : Nat) (event : Event)
    (subscription : Subscription Event Request State) : Delivery Event State :=
  ⟨subscription.token, subscription.label, emission, event,
    world.trace.filterMap (Occurrence.eventFor? subscription.token), world.state⟩

/-- The world as a subscriber has just been called. -/
def calling (world : World Event Request State) (emission : Nat) (event : Event)
    (subscription : Subscription Event Request State) : World Event Request State :=
  { world with trace := .delivered (world.callOf emission event subscription) :: world.trace }

/-- The world as a subscriber has just been told of the end of the feed. -/
def telling (world : World Event Request State) (token : Nat) (label : String) : World Event Request State :=
  { world with trace := .told token label :: world.trace }

/-- The world after a subscription has been given up. -/
def without (world : World Event Request State) (token : Nat) : World Event Request State :=
  { world with
    feed := { world.feed with subscriptions := world.feed.subscriptions.filter (·.token != token) }
    trace := .unsubscribed token :: world.trace }

theorem Orderly.emitting (orderly : world.Orderly) (opened : world.feed.closed = false) :
    (world.emitting event).Orderly :=
  orderly.record (orderly.closed.symm.trans opened) orderly.nested rfl rfl nofun

theorem Orderly.telling (orderly : world.Orderly) (closed : world.feed.closed = true) {token : Nat}
    (made : token < world.feed.made) (untold : token ∉ allTold world.trace) (label : String) :
    (world.telling token label).Orderly := by
  refine orderly.record ⟨orderly.closed.symm.trans closed, untold⟩ orderly.nested rfl rfl ?_
  rintro _ ⟨⟩
  exact made

theorem Since.telling (since : Since start world) (closed : world.feed.closed = true) {token : Nat}
    (made : token < world.feed.made) (untold : token ∉ allTold world.trace)
    (fresh : start.feed.closed = true → start.feed.made ≤ token) (label : String) :
    Since start (world.telling token label) := by
  refine since.next (since.orderly.telling closed made untold label) (Nat.le_refl _) id rfl nofun ?_
  rintro ended _ ⟨⟩
  exact fresh ended

theorem Since.ended (since : Since start world) (opened : world.feed.closed = false) : Since start world.ended :=
  since.next (since.orderly.ended opened) (Nat.le_refl _) (fun _ => rfl) rfl nofun nofun

theorem Orderly.without (orderly : world.Orderly) {token : Nat} (made : token < world.feed.made) :
    (world.without token).Orderly where
  history := ⟨trivial, orderly.history⟩
  nested := orderly.nested
  present := by
    change (world.feed.subscriptions.filter ((· != token) ∘ (·.token))).map (·.token) = _
    rw [← List.filter_map, orderly.present]
    rfl
  closed := orderly.closed
  made other member subject same := by
    rcases List.mem_cons.mp member with rfl | before
    · cases same
      exact made
    · exact orderly.made other before subject same
  latest := orderly.latest

/-- An emission to the subscribers of `start` that has yet to call some of them. -/
structure Awaited (start : World Event Request State) (event : Event) (rest : List (Subscription Event Request State))
    (world : World Event Request State) : Prop where
  since : Since start world
  begun : emissions start.trace < emissions world.trace
  audience : audience (emissions start.trace) world.trace =
    start.feed.subscriptions.map fun subscription => (subscription.token, event)
  calls : calls (emissions start.trace) world.trace ++ rest.map (fun subscription => (subscription.token, event)) =
    start.feed.subscriptions.map fun subscription => (subscription.token, event)

theorem Awaited.mono {rest : List (Subscription Event Request State)} (awaited : Awaited start event rest middle)
    (since : Since middle world) : Awaited start event rest world where
  since := awaited.since.trans since
  begun := Nat.lt_of_lt_of_le awaited.begun since.emissions_le
  audience := (since.audience_eq awaited.begun).trans awaited.audience
  calls := by
    rw [since.calls_eq awaited.begun]
    exact awaited.calls

/-- An event is emitted for those who are there. -/
theorem Orderly.awaited (orderly : world.Orderly) (opened : world.feed.closed = false) (event : Event) :
    Awaited world event world.feed.subscriptions (world.emitting event) where
  since := orderly.since.next (orderly.emitting opened) (Nat.le_refl _) id rfl nofun nofun
  begun := by simp [World.emitting, Occurrence.isEmission]
  audience := by
    simp only [World.emitting, Occurrence.audience, ↓reduceIte, ← orderly.present, List.map_map, Function.comp_def]
  calls := by
    have nobody : Occurrence.calls (emissions world.trace) (world.emitting event).trace = [] :=
      orderly.history.calls_eq_nil (Nat.le_refl _)
    rw [nobody, List.nil_append]

/-- Who is next is called. -/
theorem Awaited.calling {subscription : Subscription Event Request State}
    {rest : List (Subscription Event Request State)} (awaited : Awaited start event (subscription :: rest) world) :
    Awaited start event rest (world.calling (emissions start.trace) event subscription) where
  since := by
    refine awaited.since.next ?_ (Nat.le_refl _) id rfl ?_ nofun
    · exact awaited.since.orderly.record ⟨_, awaited.audience.trans awaited.calls.symm⟩
        ⟨awaited.since.emissions_of_call, awaited.since.orderly.nested⟩ rfl rfl nofun
    · rintro _ ⟨⟩
      exact Nat.le_refl _
  begun := awaited.begun
  audience := awaited.audience
  calls := by
    have called : Occurrence.calls (emissions start.trace)
        (world.calling (emissions start.trace) event subscription).trace =
          Occurrence.calls (emissions start.trace) world.trace ++ [(subscription.token, event)] := by
      simp [World.calling, Occurrence.calls, Occurrence.call?, callOf]
    rw [called, List.append_assoc]
    exact awaited.calls

/-- The feed has ended, and some subscribers have yet to be told. -/
structure Untold (rest : List (Subscription Event Request State)) (world : World Event Request State) : Prop where
  closed : world.feed.closed = true
  made : ∀ subscription ∈ rest, subscription.token < world.feed.made
  untold : ∀ subscription ∈ rest, subscription.token ∉ allTold world.trace
  distinct : (rest.map (·.token)).Nodup

theorem Untold.tail {subscription : Subscription Event Request State}
    {rest : List (Subscription Event Request State)} (untold : Untold (subscription :: rest) world) :
    Untold rest world where
  closed := untold.closed
  made other member := untold.made other (List.mem_cons_of_mem _ member)
  untold other member := untold.untold other (List.mem_cons_of_mem _ member)
  distinct := (List.nodup_cons.mp untold.distinct).2

/-- Who is next is told. -/
theorem Untold.telling {subscription : Subscription Event Request State}
    {rest : List (Subscription Event Request State)} (untold : Untold (subscription :: rest) world) :
    Untold rest (world.telling subscription.token subscription.label) :=
  { untold.tail with
    untold := fun other member => by
      rw [World.telling, allTold, List.filterMap_cons, Occurrence.told?, List.mem_cons]
      rintro (same | before)
      · exact (List.nodup_cons.mp untold.distinct).1 (List.mem_map.mpr ⟨other, member, same⟩)
      · exact untold.tail.untold other member before }

theorem Untold.mono {rest : List (Subscription Event Request State)} (untold : Untold rest middle)
    (since : Since middle world) : Untold rest world where
  closed := since.closed untold.closed
  made subscription member := Nat.lt_of_lt_of_le (untold.made subscription member) since.made
  untold subscription member :=
    mt (since.mem_allTold_iff untold.closed (untold.made subscription member)).mp (untold.untold subscription member)
  distinct := untold.distinct

theorem Orderly.untold (orderly : world.Orderly) (opened : world.feed.closed = false) :
    Untold world.feed.subscriptions world.ended where
  closed := rfl
  made subscription member := by
    have there : subscription.token ∈ Occurrence.present world.trace := by
      rw [← orderly.present]
      exact List.mem_map_of_mem member
    exact orderly.made _ (Occurrence.mem_present there) _ rfl
  untold subscription member := by
    change subscription.token ∉ allTold world.trace
    rw [orderly.allTold_eq_nil opened]
    exact List.not_mem_nil
  distinct := by
    rw [orderly.present]
    exact orderly.history.present_nodup

end World

end Spreadsheet
