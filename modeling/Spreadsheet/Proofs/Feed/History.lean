import Spreadsheet.Feed.Basic
import Mathlib.Data.List.Nodup

/-! What the trace of a feed tells by itself: which subscriptions there are, whom an emission is for, and whom it has
reached so far. In a history each occurrence fits what happened before it. -/
namespace Spreadsheet.Occurrence

variable {Event State : Type}

def emissions (trace : List (Occurrence Event State)) : Nat := trace.countP isEmission

def isEnd : Occurrence Event State → Bool
  | closed _ => true
  | subscribed _ | unsubscribed _ | emitted _ | delivered _ | told .. => false

def hasEnded (trace : List (Occurrence Event State)) : Bool := trace.any isEnd

/-- The subscriptions that there are, in the order in which they were made. -/
def present : List (Occurrence Event State) → List Nat
  | [] => []
  | subscribed token :: earlier => present earlier ++ [token]
  | unsubscribed token :: earlier => (present earlier).filter (· != token)
  | closed _ :: _ => []
  | _ :: earlier => present earlier

/-- Whom an emission is for, each with its event: the subscriptions that there are as it begins. -/
def audience (emission : Nat) : List (Occurrence Event State) → List (Nat × Event)
  | [] => []
  | emitted event :: earlier =>
    if emissions earlier = emission then (present earlier).map (·, event) else audience emission earlier
  | _ :: earlier => audience emission earlier

/-- Who is called with which event, if it is called by an emission. -/
def call? (emission : Nat) : Occurrence Event State → Option (Nat × Event)
  | delivered delivery => if delivery.emission = emission then some (delivery.token, delivery.event) else none
  | _ => none

/-- The calls that an emission has made, in their order. -/
def calls (emission : Nat) (trace : List (Occurrence Event State)) : List (Nat × Event) :=
  (trace.filterMap (call? emission)).reverse

def told? : Occurrence Event State → Option Nat
  | told token _ => some token
  | _ => none

/-- The subscriptions that were told of the end of the feed. -/
def allTold (trace : List (Occurrence Event State)) : List Nat := trace.filterMap told?

/-- The subscription that begins or ends, or is told of the end of the feed. -/
def subject? : Occurrence Event State → Option Nat
  | subscribed token | unsubscribed token | told token _ => some token
  | _ => none

/-- A subscription ends when it is given up, and with the feed. -/
def Ends (token : Nat) : Occurrence Event State → Prop
  | unsubscribed other => other = token
  | closed _ => True
  | _ => False

/-- What may happen after a trace: subscriptions are new and are made while the feed goes on, which is also when events
are emitted; an emission calls its audience in turn; and once the feed has ended, nobody is told so twice. -/
def Fits (earlier : List (Occurrence Event State)) : Occurrence Event State → Prop
  | subscribed token => hasEnded earlier = false ∧ ∀ occurrence ∈ earlier, occurrence.subject? ≠ some token
  | unsubscribed _ => True
  | emitted _ => hasEnded earlier = false
  | delivered delivery =>
    ∃ rest, audience delivery.emission earlier =
      calls delivery.emission earlier ++ (delivery.token, delivery.event) :: rest
  | closed _ => hasEnded earlier = false
  | told token _ => hasEnded earlier = true ∧ token ∉ allTold earlier

/-- Each occurrence fits what happened before it. -/
def History : List (Occurrence Event State) → Prop
  | [] => True
  | occurrence :: earlier => Fits earlier occurrence ∧ History earlier

/-- Emissions are nested: one that began before a call by an earlier one is over by then, so that whoever calls after this
call by a later emission is called by one that has begun since. -/
def Nested : List (Occurrence Event State) → Prop
  | [] => True
  | delivered delivery :: earlier =>
    (∀ after call before, earlier = after ++ delivered call :: before → call.emission < delivery.emission →
      emissions before ≤ delivery.emission) ∧ Nested earlier
  | _ :: earlier => Nested earlier

section reading
variable {emission : Nat} {later earlier trace : List (Occurrence Event State)}

theorem emissions_append : emissions (later ++ earlier) = emissions later + emissions earlier := List.countP_append

@[simp] theorem emissions_cons (occurrence : Occurrence Event State) :
    emissions (occurrence :: earlier) = emissions earlier + if occurrence.isEmission then 1 else 0 := List.countP_cons

theorem calls_append : calls emission (later ++ earlier) = calls emission earlier ++ calls emission later := by
  simp [calls]

theorem mem_calls {token : Nat} {event : Event} :
    (token, event) ∈ calls emission trace ↔ ∃ delivery : Delivery Event State, delivered delivery ∈ trace ∧
      delivery.emission = emission ∧ delivery.token = token ∧ delivery.event = event := by
  simp only [calls, List.mem_reverse, List.mem_filterMap]
  constructor
  · rintro ⟨occurrence, member, called⟩
    cases occurrence with
    | delivered delivery =>
      simp only [call?, Option.ite_none_right_eq_some, Option.some.injEq, Prod.mk.injEq] at called
      exact ⟨delivery, member, called⟩
    | _ => cases called
  · rintro ⟨delivery, member, rfl, rfl, rfl⟩
    exact ⟨_, member, if_pos rfl⟩

/-- Deliveries by other emissions do not count. -/
theorem calls_append_of_ne
    (others : ∀ delivery : Delivery Event State, delivered delivery ∈ later → delivery.emission ≠ emission) :
    calls emission (later ++ earlier) = calls emission earlier := by
  have none : calls emission later = [] := by
    rw [List.eq_nil_iff_forall_not_mem]
    rintro ⟨token, event⟩ member
    obtain ⟨delivery, delivers, same, _⟩ := mem_calls.mp member
    exact others delivery delivers same
  rw [calls_append, none, List.append_nil]

/-- An emission to come has no audience yet. -/
theorem audience_eq_nil (ahead : emissions trace ≤ emission) : audience emission trace = [] := by
  induction trace with
  | nil => rfl
  | cons occurrence earlier ih =>
    have before : emissions earlier ≤ emission := by
      rw [emissions_cons] at ahead
      omega
    cases occurrence with
    | emitted event =>
      have other : emissions earlier ≠ emission := by
        simp only [emissions_cons, isEmission, ↓reduceIte] at ahead
        omega
      simpa only [audience, other, ↓reduceIte] using ih before
    | _ => exact ih before

/-- The audience of an emission is settled once and for all as it begins. -/
theorem audience_append (begun : emission < emissions earlier) :
    audience emission (later ++ earlier) = audience emission earlier := by
  induction later with
  | nil => rfl
  | cons occurrence rest ih =>
    cases occurrence with
    | emitted event =>
      have other : emissions (rest ++ earlier) ≠ emission := by
        rw [emissions_append]
        omega
      simpa only [List.cons_append, audience, other, ↓reduceIte] using ih
    | _ => exact ih

theorem mem_present {token : Nat} (member : token ∈ present trace) : subscribed token ∈ trace := by
  induction trace with
  | nil => cases member
  | cons occurrence earlier ih =>
    cases occurrence with
    | subscribed other =>
      rcases List.mem_append.mp member with old | new
      · exact List.mem_cons_of_mem _ (ih old)
      · rw [List.mem_singleton.mp new]
        exact List.mem_cons_self
    | unsubscribed other => exact List.mem_cons_of_mem _ (ih (List.mem_filter.mp member).1)
    | closed state => cases member
    | _ => exact List.mem_cons_of_mem _ (ih member)

end reading

namespace History
variable {emission : Nat} {later earlier trace : List (Occurrence Event State)}

theorem of_append (history : History (later ++ earlier)) : History earlier := by
  induction later with
  | nil => exact history
  | cons occurrence rest ih => exact ih history.2

theorem fits {occurrence : Occurrence Event State} (history : History (later ++ occurrence :: earlier)) :
    Fits earlier occurrence := history.of_append.1

/-- An emission to come has called nobody. -/
theorem calls_eq_nil (history : History trace) (ahead : emissions trace ≤ emission) : calls emission trace = [] := by
  rw [List.eq_nil_iff_forall_not_mem]
  rintro ⟨token, event⟩ member
  obtain ⟨delivery, delivers, rfl, -⟩ := mem_calls.mp member
  obtain ⟨later, earlier, rfl⟩ := List.append_of_mem delivers
  obtain ⟨rest, called⟩ := history.fits
  rw [emissions_append, emissions_cons] at ahead
  rw [audience_eq_nil (by omega)] at called
  simp at called

/-- Once the feed has ended, nobody is left. -/
theorem present_eq_nil (history : History trace) (ended : hasEnded trace = true) : present trace = [] := by
  induction trace with
  | nil => cases ended
  | cons occurrence earlier ih =>
    obtain ⟨fits, before⟩ := history
    cases occurrence with
    | closed state => rfl
    | subscribed token => exact absurd (show hasEnded earlier = true from ended) (by simp [fits.1])
    | unsubscribed token => exact List.filter_eq_nil_iff.mpr fun other member => by simp [ih before ended] at member
    | emitted event => exact ih before ended
    | delivered delivery => exact ih before ended
    | told token label => exact ih before ended

/-- An emission calls its audience in turn, and nobody else. -/
theorem calls_prefix (history : History trace) (emission : Nat) :
    calls emission trace <+: audience emission trace := by
  induction trace with
  | nil => exact List.prefix_rfl
  | cons occurrence earlier ih =>
    have silent (others : occurrence.call? emission = none) : calls emission (occurrence :: earlier) =
        calls emission earlier := by simp only [calls, List.filterMap_cons, others]
    cases occurrence with
    | delivered delivery =>
      by_cases same : delivery.emission = emission
      · subst same
        obtain ⟨rest, called⟩ := history.1
        refine ⟨rest, ?_⟩
        simp [calls, call?, audience, called]
      · rw [silent (if_neg same)]
        exact ih history.2
    | emitted event =>
      rw [silent rfl]
      by_cases next : emissions earlier = emission
      · rw [history.2.calls_eq_nil (Nat.le_of_eq next)]
        exact List.nil_prefix
      · simpa only [audience, next, ↓reduceIte] using ih history.2
    | _ =>
      rw [silent rfl]
      exact ih history.2

theorem present_nodup (history : History trace) : (present trace).Nodup := by
  induction trace with
  | nil => exact List.nodup_nil
  | cons occurrence earlier ih =>
    cases occurrence with
    | subscribed token =>
      refine List.Nodup.append (ih history.2) (List.nodup_singleton token) ?_
      intro other old new
      rw [List.mem_singleton] at new
      subst new
      exact history.1.2 _ (mem_present old) rfl
    | unsubscribed token => exact (ih history.2).filter _
    | closed state => exact List.nodup_nil
    | _ => exact ih history.2

/-- No emission is for a subscription twice. -/
theorem audience_nodup (history : History trace) (emission : Nat) :
    ((audience emission trace).map Prod.fst).Nodup := by
  induction trace with
  | nil => exact List.nodup_nil
  | cons occurrence earlier ih =>
    cases occurrence with
    | emitted event =>
      simp only [audience]
      split
      · simpa [Function.comp_def] using history.2.present_nodup
      · exact ih history.2
    | _ => exact ih history.2

/-- No emission calls a subscriber twice. -/
theorem calls_nodup (history : History trace) (emission : Nat) : ((calls emission trace).map Prod.fst).Nodup :=
  (history.audience_nodup emission).sublist ((history.calls_prefix emission).sublist.map _)

/-- Nobody is told of the end of the feed twice. -/
theorem allTold_nodup (history : History trace) : (allTold trace).Nodup := by
  induction trace with
  | nil => exact List.nodup_nil
  | cons occurrence earlier ih =>
    cases occurrence with
    | told token label => exact List.nodup_cons.mpr ⟨history.1.2, ih history.2⟩
    | _ => exact ih history.2

/-- A subscription that ended does not come back. -/
theorem not_mem_present {token : Nat} {ending : Occurrence Event State} (history : History trace)
    (ends : ending.Ends token) (member : ending ∈ trace) : token ∉ present trace := by
  induction trace with
  | nil => cases member
  | cons occurrence earlier ih =>
    rcases List.mem_cons.mp member with rfl | before
    · cases ending with
      | unsubscribed other =>
        cases ends
        simp [present]
      | closed state => exact List.not_mem_nil
      | _ => cases ends
    · have gone := ih history.2 before
      cases occurrence with
      | subscribed other =>
        intro again
        rcases List.mem_append.mp again with old | new
        · exact gone old
        · rw [List.mem_singleton] at new
          subst new
          cases ending with
          | unsubscribed other =>
            cases ends
            exact history.1.2 _ before rfl
          | closed state =>
            have ended : hasEnded earlier = true := List.any_eq_true.mpr ⟨_, before, rfl⟩
            exact absurd ended (by simp [history.1.1])
          | _ => cases ends
      | unsubscribed other => exact fun again => gone (List.mem_filter.mp again).1
      | closed state => exact List.not_mem_nil
      | _ => exact gone

/-- An emission that begins after a subscription ended is not for it. -/
theorem not_mem_audience {token : Nat} {ending : Occurrence Event State} (history : History (later ++ earlier))
    (ends : ending.Ends token) (member : ending ∈ earlier) (ahead : emissions earlier ≤ emission) :
    token ∉ (audience emission (later ++ earlier)).map Prod.fst := by
  induction later with
  | nil => simp [audience_eq_nil ahead]
  | cons occurrence rest ih =>
    cases occurrence with
    | emitted event =>
      simp only [List.cons_append, audience]
      split
      · simpa using history.2.not_mem_present ends (List.mem_append_right _ member)
      · exact ih history.2
    | _ => exact ih history.2

/-- Who is called after its subscription ended is called by an emission that had begun by then and had yet to come to
it. -/
theorem pending_of_delivered {ending : Occurrence Event State} {delivery : Delivery Event State}
    (history : History (later ++ ending :: earlier)) (ends : ending.Ends delivery.token)
    (delivers : delivered delivery ∈ later) :
    delivery.emission < emissions earlier ∧
      delivery.token ∉ (calls delivery.emission earlier).map Prod.fst := by
  obtain ⟨last, first, rfl⟩ := List.append_of_mem delivers
  rw [List.append_assoc, List.cons_append] at history
  obtain ⟨rest, called⟩ := history.fits
  have known := history.of_append.2
  constructor
  · by_contra begun
    have ahead : emissions (ending :: earlier) ≤ delivery.emission := by
      cases ending with
      | emitted event => cases ends
      | _ => exact Nat.le_of_not_lt begun
    refine known.not_mem_audience ends List.mem_cons_self ahead ?_
    rw [called]
    simp
  · intro before
    have once := known.audience_nodup delivery.emission
    rw [called, List.map_append, List.map_cons, List.nodup_append] at once
    refine once.2.2 _ ?_ _ List.mem_cons_self rfl
    have split : first ++ ending :: earlier = (first ++ [ending]) ++ earlier := by simp
    rw [split, calls_append, List.map_append]
    exact List.mem_append_left _ before

/-- A subscription that is made after an emission has begun is not called by it. -/
theorem not_called_of_subscribed {token : Nat} {event : Event} (history : History (later ++ emitted event :: earlier))
    (subscribes : subscribed token ∈ later) :
    token ∉ (calls (emissions earlier) (later ++ emitted event :: earlier)).map Prod.fst := by
  intro called
  have audible := ((history.calls_prefix (emissions earlier)).sublist.map Prod.fst).subset called
  rw [audience_append (by simp [isEmission]), audience, if_pos rfl] at audible
  obtain ⟨last, first, rfl⟩ := List.append_of_mem subscribes
  rw [List.append_assoc, List.cons_append] at history
  refine history.fits.2 (subscribed token) ?_ rfl
  have there : token ∈ present earlier := by simpa using audible
  exact List.mem_append_right _ (List.mem_cons_of_mem _ (mem_present there))

end History
end Spreadsheet.Occurrence
