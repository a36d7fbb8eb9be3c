import Spreadsheet.Proofs.Sheet.Consistency
import Spreadsheet.Proofs.Sheet.Regions

/-! To dispose of a sheet is final: what it holds and its regions stay as they were when its feed ended, and every call
to change it is refused. Requests that move or copy regions go on with their work after they have told of a region, so
for them this needs subscribers who make no requests while they are told of one. -/
namespace Spreadsheet

/-- A region came or went. -/
def Change.isRegion {α : Type} : Change α → Bool
  | merge _ | unmerge _ => true
  | _ => false

def Action.isRequest {Event Request State : Type} : Action Event Request State → Bool
  | request _ => true
  | _ => false

mutual

/-- The request may move or copy regions. -/
def SheetRequest.shifts : SheetRequest → Bool
  | .smartFill .. | .moveMerges .. | .replicateMerges .. => true
  | .batch requests | .attempt requests => anyShifts requests
  | _ => false

/-- One of the requests may move or copy regions. -/
def SheetRequest.anyShifts : List SheetRequest → Bool
  | [] => false
  | request :: rest => request.shifts || anyShifts rest

end

/-- A call to change the sheet. To end a batch that is open, to try something and to give up are none, nor is to dispose
of the sheet. -/
def SheetRequest.mutates : SheetRequest → Bool
  | .endBatch | .attempt _ | .giveUp _ | .dispose => false
  | _ => true

/-- What may be done in a run: if regions are ever moved or copied, then a subscriber that is told of a region makes no
request there and then. When it is told of anything else, it may do what it likes. -/
inductive Considerate (shifting : Bool) : Action (Change Int) SheetRequest Sheet → Prop
  | fail (error : SheetError) : Considerate shifting (.fail error)
  | subscribe {label : String} {onEvent : Delivery (Change Int) Sheet → List (Action (Change Int) SheetRequest Sheet)}
      {onClose : Option (List (Action (Change Int) SheetRequest Sheet))}
      (calm : shifting = true → ∀ delivery, delivery.event.isRegion = true →
        ∀ action ∈ onEvent delivery, action.isRequest = false)
      (told : ∀ delivery, ∀ action ∈ onEvent delivery, Considerate shifting action)
      (ended : ∀ actions, onClose = some actions → ∀ action ∈ actions, Considerate shifting action) :
      Considerate shifting (.subscribe label onEvent onClose)
  | unsubscribe (label : String) : Considerate shifting (.unsubscribe label)
  | request {request : SheetRequest} (allowed : request.shifts = true → shifting = true) :
      Considerate shifting (.request request)

/-- A subscriber that is considerate whatever it is told. -/
structure Polite (shifting : Bool) (subscription : Subscription (Change Int) SheetRequest Sheet) : Prop where
  calm : shifting = true → ∀ event action, subscription.Does (some event) action → event.isRegion = true →
    action.isRequest = false
  considerate : ∀ told action, subscription.Does told action → Considerate shifting action

/-- Since the feed of a sheet ended, nothing that it holds has changed, nor have its regions. -/
def Sheet.Final (sheet : Sheet) (trace : List (Occurrence (Change Int) Sheet)) : Prop :=
  ∀ last, .closed last ∈ trace → sheet.isDisposed = true ∧ sheet.grid = last.grid ∧ sheet.merges = last.merges

namespace Sheet
variable {sheet : Sheet}

theorem requireLive_of_disposed (disposed : sheet.isDisposed = true) : sheet.requireLive = .error .disposed := by
  unfold requireLive
  rw [if_pos disposed]

theorem writable_of_disposed (disposed : sheet.isDisposed = true) (address : Address Number) :
    sheet.writable address = .error .disposed := by
  unfold writable
  rw [requireLive_of_disposed disposed]
  rfl

theorem writableRange_of_disposed (disposed : sheet.isDisposed = true) (range : Range Number) :
    sheet.writableRange range = .error .disposed := by
  unfold writableRange
  rw [requireLive_of_disposed disposed]
  rfl

/-- No edit is accepted any more. -/
theorem edit?_of_disposed {request : SheetRequest} {result : Except SheetError Edit} (disposed : sheet.isDisposed = true)
    (asked : sheet.edit? request = some result) : result = .error .disposed := by
  cases request with
  | setValue | setStyle | setFormat | setRichText | setCell =>
    cases asked
    simp only [editCell, writable_of_disposed disposed, Except.map]
  | clearRange | clearValues | clearStyles | clearFormats | fillWithCell =>
    cases asked
    simp only [editRange, writableRange_of_disposed disposed, Except.map]
  | copyRange =>
    cases asked
    simp only [copyEdit, writableRange_of_disposed disposed]
    rfl
  | _ => cases asked

end Sheet

namespace SheetWorld
variable {shifting : Bool} {world : SheetWorld} {after : Sheet} {publish : Publisher} {close : Session Unit}

/-- What holds of a sheet and its feed while everyone is considerate: the sheet is final since its feed ended, also as
it is shown to subscribers, and the feed ends when the sheet is disposed of. -/
structure Settled (shifting : Bool) (world : SheetWorld) : Prop where
  polite : ∀ subscription ∈ world.feed.subscriptions, Polite shifting subscription
  goes : world.state.isDisposed = false → world.feed.closed = false
  ended : world.state.isDisposed = true → ∃ last, .closed last ∈ world.trace
  final : world.state.Final world.trace
  shown : ∀ delivery earlier, .delivered delivery :: earlier <:+ world.trace → delivery.state.Final earlier

/-- The same before the sheet has been disposed of. -/
def Live (shifting : Bool) (world : SheetWorld) : Prop := Settled shifting world ∧ world.state.isDisposed = false

theorem Live.settled (live : Live shifting world) : Settled shifting world := live.1

/-- A sheet that has not been disposed of may change in any way. -/
theorem Live.change (live : Live shifting world) (same : after.isDisposed = false) :
    Live shifting { world with state := after } := by
  obtain ⟨settled, going⟩ := live
  have open' : ∀ last, .closed last ∉ world.trace := fun last member => by
    simp [(settled.final last member).1] at going
  exact ⟨⟨settled.polite, fun _ => settled.goes going, fun disposed => by simp [same] at disposed,
    fun last member => absurd member (open' last), settled.shown⟩, same⟩

/-- A sheet that has been disposed of may still change in what it neither holds nor merges. -/
theorem Settled.change (settled : Settled shifting world) (same : after.isDisposed = world.state.isDisposed)
    (grid : after.grid = world.state.grid) (merges : after.merges = world.state.merges) :
    Settled shifting { world with state := after } where
  polite := settled.polite
  goes going := settled.goes (same ▸ going)
  ended disposed := settled.ended (same ▸ disposed)
  final last member := by
    simp only [same, grid, merges]
    exact settled.final last member
  shown := settled.shown

theorem inert_settled : World.Inert (Polite shifting) (Settled shifting) where
  subscribers world settled := settled.polite
  feed world feed settled same polite :=
    ⟨polite, fun going => same.trans (settled.goes going), settled.ended, settled.final, settled.shown⟩
  record world occurrence settled shown goes := by
    have earlier {last : Sheet} (member : .closed last ∈ occurrence :: world.trace) : .closed last ∈ world.trace :=
      (List.mem_cons.mp member).resolve_left fun same => goes last same.symm
    refine ⟨settled.polite, settled.goes, fun disposed => ?_, fun last member => settled.final last (earlier member), ?_⟩
    · obtain ⟨last, member⟩ := settled.ended disposed
      exact ⟨last, List.mem_cons_of_mem _ member⟩
    · intro delivery before suffix
      rcases List.suffix_cons_iff.mp suffix with same | deeper
      · obtain ⟨rfl, rfl⟩ := List.cons.inj same
        rw [shown delivery rfl]
        exact settled.final
      · exact settled.shown delivery before deeper

theorem inert_live : World.Inert (Polite shifting) (Live shifting) := inert_settled.and (·.isDisposed = false)

/-- As a sheet is disposed of, its feed ends. -/
theorem Live.ended (live : Live shifting world) (same : after.isDisposed = true) :
    Settled shifting (World.ended { world with state := after }) := by
  obtain ⟨settled, going⟩ := live
  refine ⟨by simp [World.ended], fun still => ?_, fun _ => ⟨after, List.mem_cons_self⟩, ?_, ?_⟩
  · simp [World.ended, same] at still
  · intro last member
    rcases List.mem_cons.mp member with now | before
    · cases now
      exact ⟨same, rfl, rfl⟩
    · simp [(settled.final last before).1] at going
  · intro delivery earlier suffix
    rcases List.suffix_cons_iff.mp suffix with now | deeper
    · cases now
    · exact settled.shown delivery earlier deeper

/-- Ways to publish and to close that considerate subscribers leave a settled sheet in. -/
structure Answered (shifting : Bool) (publish : Publisher) (close : Session Unit) : Prop where
  told : ∀ event, Run.Keeps (Settled shifting) (publish event)
  calm : shifting = true → ∀ event : Change Int, event.isRegion = true → Run.Keeps (Live shifting) (publish event)
  closes : ∀ world, Live shifting world →
    Settled shifting (close.leaves { world with state := { world.state with isDisposed := true } })

end SheetWorld

namespace Session
open Run SheetWorld
variable {shifting : Bool} {world : SheetWorld} {publish : Publisher} {close : Session Unit}

section regions
variable {inv : SheetWorld → Prop} (weaker : ∀ world, Live shifting world → inv world)
  (tells : ∀ event : Change Int, event.isRegion = true → Keeps inv (publish event))
include weaker tells

/-- Regions are registered and removed while the sheet has not been disposed of; only then it is told. -/
theorem leaves_addMerge (live : Live shifting world) (range : Range Number) :
    inv ((addMerge publish range).leaves world) := by
  unfold leaves
  cases passed : world.state.merges.merge range with
  | error error =>
    rw [outcome_addMerge_of_error passed]
    exact weaker world live
  | ok made =>
    rw [outcome_addMerge passed]
    exact keeps_bind (tells (.merge made.1.cells) rfl) (fun _ => keeps_pure _) _ (weaker _ (live.change live.2))

theorem leaves_unmerge (live : Live shifting world) (address : Address Number) :
    inv ((unmerge publish address).leaves world) := by
  unfold leaves
  rw [outcome_unmerge live.2]
  refine keeps_bind ?_ (fun _ => keeps_pure _) _ (weaker _ (live.change live.2))
  cases (world.state.merges.unmerge address).1 with
  | none => exact keeps_pure _
  | some region => exact tells (.unmerge region.cells) rfl

theorem leaves_unmergeInRange (live : Live shifting world) (range : Range Number) :
    inv ((unmergeInRange publish range).leaves world) := by
  unfold leaves
  rw [outcome_unmergeInRange live.2]
  exact keeps_bind (keeps_forM fun region _ => tells (.unmerge region.cells) rfl) (fun _ => keeps_pure _) _
    (weaker _ (live.change live.2))

end regions

section shifts
variable (calm : ∀ event : Change Int, event.isRegion = true → Keeps (Live shifting) (publish event))
include calm

theorem keeps_takeAway (region : MergeRegion) : Keeps (Live shifting) (takeAway publish region) := by
  intro world live
  unfold leaves
  rw [outcome_takeAway]
  exact calm (.unmerge region.cells) rfl _ (live.change live.2)

/-- If nobody makes a request while a region is told, the sheet is not disposed of before all regions have moved. -/
theorem leaves_moveMerges (live : Live shifting world) (source : Range Number) (destination : Address Number) :
    Live shifting ((moveMerges publish source destination).leaves world) := by
  unfold moveMerges leaves
  rw [outcome_check_ok (Sheet.requireLive_ok live.2), outcome_bind_ok outcome_sheet]
  refine keeps_bind (keeps_forM fun region _ => keeps_takeAway calm region) (fun _ => keeps_sheet ?_) world live
  intro world live
  refine keeps_bind (keeps_mapM fun target _ => ?_) (fun _ => ?_) world live
  · refine keeps_bind (fun world live => ?_) fun _ world live => ?_
    · exact leaves_unmergeInRange (fun _ => id) calm live target
    · exact leaves_addMerge (fun _ => id) calm live target
  · exact keeps_bind (keeps_lift _) fun _ => keeps_pure _

/-- Nor before all copies of regions have been made. -/
theorem leaves_replicateMerges (live : Live shifting world) (source target : Range Number) (vertical : Bool) :
    Live shifting ((replicateMerges publish source target vertical).leaves world) := by
  unfold replicateMerges leaves
  rw [outcome_check_ok (Sheet.requireLive_ok live.2), outcome_bind_ok outcome_sheet]
  dsimp only
  split
  · exact live
  · refine keeps_bind (fun world live => ?_) (fun _ => keeps_sheet ?_) world live
    · exact leaves_unmergeInRange (fun _ => id) calm live target
    · intro world live
      refine keeps_bind (keeps_mapM fun copy _ world live => ?_) (fun _ => ?_) world live
      · exact leaves_addMerge (fun _ => id) calm live copy
      · exact keeps_bind (keeps_lift _) fun _ => keeps_bind (keeps_lift _) fun _ => keeps_pure _

end shifts

/-- Nothing that has been disposed of can be changed, whatever the arguments are, and nobody is told. -/
theorem outcome_perform_of_disposed (disposed : world.state.isDisposed = true) {request : SheetRequest}
    (mutates : request.mutates = true) : (perform publish close request).outcome world = (.error .disposed, world) := by
  have live := Sheet.requireLive_of_disposed disposed
  have refused {result : Except SheetError Edit} (asked : world.state.edit? request = some result) :
      (perform publish close request).outcome world = (.error .disposed, world) := by
    rw [outcome_perform_edit asked, Sheet.edit?_of_disposed disposed asked, outcome_settle_error]
  cases request with
  | setValue | setStyle | setFormat | setRichText | setCell => exact refused rfl
  | clearRange | clearValues | clearStyles | clearFormats | fillWithCell | copyRange => exact refused rfl
  | fillRange source target => exact outcome_check_error (Sheet.writableRange_of_disposed disposed target)
  | smartFill source =>
    exact outcome_bind_error (outcome_check_error (Sheet.writableRange_of_disposed disposed source))
  | merge range => exact outcome_bind_error (outcome_check_error (Sheet.writableRange_of_disposed disposed range))
  | unmerge | unmergeInRange | moveMerges | replicateMerges => exact outcome_bind_error (outcome_check_error live)
  | clear | beginBatch => exact outcome_check_error live
  | batch => exact outcome_bind_error (outcome_check_error live)
  | _ => cases mutates

/-- So a call to change a sheet matters only while the sheet has not been disposed of. -/
theorem settled_of_live {request : SheetRequest} (mutates : request.mutates = true)
    (done : ∀ world, Live shifting world → Settled shifting ((perform publish close request).leaves world)) :
    Keeps (Settled shifting) (perform publish close request) := by
  intro world settled
  cases going : world.state.isDisposed with
  | false => exact done world ⟨settled, going⟩
  | true =>
    rw [leaves, outcome_perform_of_disposed going mutates]
    exact settled

section requests
variable (told : ∀ event, Keeps (Settled shifting) (publish event))
include told

theorem leaves_edit {request : SheetRequest} {result : Except SheetError Edit} (live : Live shifting world)
    (asked : world.state.edit? request = some result) :
    Settled shifting ((perform publish close request).leaves world) := by
  unfold leaves
  rw [outcome_perform_edit asked]
  cases result with
  | error error => exact live.1
  | ok edit =>
    rw [outcome_settle_ok]
    have changed := live.change ((Sheet.isDisposed_edited edit).trans live.2)
    exact keeps_forM (fun event _ => told event) _ changed.settled

/-- Nothing is told while cells are written in a batch. -/
theorem leaves_writeAll (live : Live shifting world) (cells : List (Address Int × Except SheetError (Option Cell))) :
    Settled shifting ((writeAll publish cells).leaves world) := by
  unfold leaves
  rw [outcome_writeAll cells live.2 (Prod.eta _).symm]
  have still : (world.state.batchOpened.putAll cells).2.batchClosed.isDisposed = false :=
    (Sheet.isDisposed_putAll cells).trans live.2
  exact keeps_bind (keeps_forM fun event _ => told event) (fun _ => keeps_lift _) _ (live.change still).settled

theorem leaves_fillRange (live : Live shifting world) (source : Address Number) (target : Range Number)
    (generator : Option Generator) : Settled shifting ((fillRange publish source target generator).leaves world) := by
  unfold leaves
  cases passed : world.state.writableRange target with
  | error error =>
    rw [show (fillRange publish source target generator).outcome world = _ from outcome_check_error passed]
    exact live.1
  | ok cells =>
    rw [outcome_fillRange passed]
    cases world.state.filling? source cells target generator with
    | none => exact live.1
    | some made => exact leaves_writeAll told live made

theorem leaves_merge (live : Live shifting world) (range : Range Number) :
    Settled shifting ((merge publish range).leaves world) := by
  unfold merge leaves
  cases passed : world.state.writableRange range with
  | error error =>
    rw [outcome_check_error passed]
    exact live.1
  | ok cells =>
    rw [outcome_check_ok passed]
    exact leaves_addMerge (fun _ => And.left) (fun event _ => told event) live range

theorem leaves_clear (live : Live shifting world) : Settled shifting ((clear publish).leaves world) := by
  unfold clear leaves
  rw [outcome_check_ok (Sheet.requireLive_ok live.2), outcome_bind_ok (outcome_modifySheet _)]
  exact told .reset _ (Live.settled (live.change live.2))

omit told in
theorem leaves_beginBatch (live : Live shifting world) : Live shifting (beginBatch.leaves world) := by
  unfold beginBatch leaves
  rw [outcome_check_ok (Sheet.requireLive_ok live.2), outcome_modifySheet]
  exact live.change live.2

theorem keeps_settled_endBatch : Keeps (Settled shifting) (endBatch publish) := by
  intro world settled
  unfold leaves
  rw [outcome_endBatch]
  exact keeps_forM (fun event _ => told event) _ (settled.change rfl rfl rfl)

theorem leaves_batch {α : Type} {body : Session α} (live : Live shifting world)
    (kept : Keeps (Settled shifting) body) : Settled shifting ((batch publish body).leaves world) :=
  leaves_bind (leaves_beginBatch live).1 fun _ =>
    keeps_bind (keeps_attempt kept) fun _ => keeps_bind (keeps_settled_endBatch told) fun _ => keeps_lift _

end requests

variable (answered : Answered shifting publish close)
include answered

theorem keeps_settled_replicateMerges (allowed : shifting = true) (source target : Range Number) (vertical : Bool) :
    Keeps (Settled shifting) (replicateMerges publish source target vertical) := by
  intro world settled
  cases going : world.state.isDisposed with
  | false => exact (leaves_replicateMerges (answered.calm allowed) ⟨settled, going⟩ source target vertical).settled
  | true =>
    rw [show (replicateMerges publish source target vertical).leaves world = world from
      congrArg Prod.snd (outcome_check_error (Sheet.requireLive_of_disposed going))]
    exact settled

/-- A fill may be followed by the end of the sheet, and then no regions are copied. -/
theorem keeps_settled_smartFill (allowed : shifting = true) (source destination : Range Number)
    (generator : Option Generator) : Keeps (Settled shifting) (smartFill publish source destination generator) := by
  apply keeps_check
  intro world sourceCells settled _
  split
  · exact settled
  · refine keeps_bind (keeps_lift _) (fun stripCells => keeps_sheet ?_) world settled
    intro world settled
    refine keeps_check ?_ world settled
    intro world targetCells settled passed
    have live : Live shifting world := ⟨settled, (Sheet.writableRange_ok_iff.mp passed).1⟩
    refine leaves_bind (leaves_writeAll answered.told live _) fun _ => ?_
    exact keeps_bind (keeps_settled_replicateMerges answered allowed _ _ _) fun _ => keeps_pure _

theorem keeps_settled_dispose : Keeps (Settled shifting) (dispose close) := by
  apply keeps_sheet
  intro world settled
  by_cases gone : world.state.isDisposed = true
  · rw [if_pos gone]
    exact settled
  · rw [if_neg gone]
    exact answered.closes world ⟨settled, by simpa using gone⟩

omit answered

mutual

/-- Every request keeps a sheet settled. -/
theorem keeps_settled_perform (answered : Answered shifting publish close) (request : SheetRequest)
    (allowed : request.shifts = true → shifting = true) : Keeps (Settled shifting) (perform publish close request) := by
  have told := answered.told
  have weaker : ∀ world, Live shifting world → Settled shifting world := fun _ => And.left
  have tells : ∀ event : Change Int, event.isRegion = true → Keeps (Settled shifting) (publish event) :=
    fun event _ => told event
  cases request with
  | setValue | setStyle | setFormat | setRichText | setCell => exact settled_of_live rfl fun _ live => leaves_edit told live rfl
  | clearRange | clearValues | clearStyles | clearFormats | fillWithCell =>
    exact settled_of_live rfl fun _ live => leaves_edit told live rfl
  | copyRange => exact settled_of_live rfl fun _ live => leaves_edit told live rfl
  | fillRange source target generator =>
    exact settled_of_live rfl fun _ live => leaves_fillRange told live source target generator
  | smartFill source destination generator =>
    exact keeps_bind (keeps_settled_smartFill answered (allowed rfl) source destination generator) fun _ => keeps_pure _
  | merge range => exact settled_of_live rfl fun _ live => leaves_bind (leaves_merge told live range) fun _ => keeps_pure _
  | unmerge address =>
    exact settled_of_live rfl fun _ live => leaves_bind (leaves_unmerge weaker tells live address) fun _ => keeps_pure _
  | unmergeInRange range =>
    exact settled_of_live rfl fun _ live => leaves_bind (leaves_unmergeInRange weaker tells live range) fun _ => keeps_pure _
  | moveMerges source destination =>
    exact settled_of_live rfl fun _ live =>
      leaves_bind (leaves_moveMerges (answered.calm (allowed rfl)) live source destination).1 fun _ => keeps_pure _
  | replicateMerges source target vertical =>
    exact keeps_bind (keeps_settled_replicateMerges answered (allowed rfl) source target vertical) fun _ => keeps_pure _
  | clear => exact settled_of_live rfl fun _ live => leaves_clear told live
  | beginBatch => exact settled_of_live rfl fun _ live => (leaves_beginBatch live).1
  | endBatch => exact keeps_settled_endBatch told
  | batch requests =>
    exact settled_of_live rfl fun _ live => leaves_batch told live (keeps_settled_performAll answered requests allowed)
  | attempt requests =>
    exact keeps_bind (keeps_attempt (keeps_settled_performAll answered requests allowed)) fun _ => keeps_pure _
  | giveUp error => exact keeps_throw error
  | dispose => exact keeps_settled_dispose answered

theorem keeps_settled_performAll (answered : Answered shifting publish close) (requests : List SheetRequest)
    (allowed : SheetRequest.anyShifts requests = true → shifting = true) :
    Keeps (Settled shifting) (performAll publish close requests) := by
  cases requests with
  | nil => exact keeps_pure _
  | cons request rest =>
    refine keeps_bind (keeps_settled_perform answered request fun last => allowed ?_) fun _ =>
      keeps_settled_performAll answered rest fun last => allowed ?_
    · simp [SheetRequest.anyShifts, last]
    · simp [SheetRequest.anyShifts, last]

end

end Session

namespace SheetWorld
open Run
variable {shifting : Bool} {world : SheetWorld} {fuel : Nat} {action : Action (Change Int) SheetRequest Sheet}

theorem polite_of_subscribe {label : String}
    {onEvent : Delivery (Change Int) Sheet → List (Action (Change Int) SheetRequest Sheet)}
    {onClose : Option (List (Action (Change Int) SheetRequest Sheet))}
    (considerate : Considerate shifting (.subscribe label onEvent onClose)) (token : Nat) :
    Polite shifting ⟨token, label, onEvent, onClose⟩ := by
  cases considerate with
  | subscribe calm told ended =>
    refine ⟨?_, ?_⟩
    · rintro allowed event action ⟨delivery, rfl, member⟩ region
      exact calm allowed delivery region action member
    · intro cause action does
      cases cause with
      | some event =>
        obtain ⟨delivery, _, member⟩ := does
        exact told delivery action member
      | none =>
        obtain ⟨actions, given, member⟩ := does
        exact ended actions given action member

/-- Who makes no request does not dispose of the sheet. -/
theorem keeps_live_act (considerate : Considerate shifting action) (passive : action.isRequest = false) :
    Keeps (Live shifting) (sheetHost.act fuel action) := by
  cases fuel with
  | zero => exact keeps_throw _
  | succ fuel =>
    cases action with
    | fail error => exact keeps_throw _
    | unsubscribe label => exact keeps_unsubscribe inert_live.patient label
    | request request => cases passive
    | subscribe label onEvent onClose =>
      intro world live
      have polite := polite_of_subscribe considerate world.feed.made
      have told := inert_live.record world (.subscribed world.feed.made) live (fun _ same => by cases same)
        (fun _ same => by cases same)
      unfold leaves Host.act
      rw [outcome_subscribe _ _ _ _ (live.settled.goes live.2)]
      refine inert_live.feed _ _ told rfl ?_
      intro subscription member
      rcases List.mem_append.mp member with old | new
      · exact live.settled.polite subscription old
      · rw [List.mem_singleton.mp new]
        exact polite

/-- What considerate subscribers do when they are told, if each of their actions keeps the sheet settled. -/
theorem answered_act
    (acts : ∀ action, Considerate shifting action → Keeps (Settled shifting) (sheetHost.act fuel action)) :
    Answered shifting (emit (sheetHost.act fuel) sheetHost.describe) (close (sheetHost.act fuel)) where
  told event := keeps_emit inert_settled
    (fun _ polite action does => acts action (polite.considerate _ action does)) sheetHost.describe
  calm allowed event region := keeps_emit inert_live
    (fun _ polite action does =>
      keeps_live_act (polite.considerate _ action does) (polite.calm allowed event action does region))
    sheetHost.describe
  closes world live := by
    refine leaves_close inert_settled.patient ?_ (live.settled.goes live.2) live.settled.polite (live.ended rfl)
    intro subscription polite action does
    exact acts action (polite.considerate _ action does)

/-- A sheet stays settled while everyone is considerate. -/
theorem keeps_settled_act (considerate : Considerate shifting action) :
    Keeps (Settled shifting) (sheetHost.act fuel action) := by
  induction fuel generalizing action with
  | zero => exact keeps_throw _
  | succ fuel ih =>
    cases action with
    | fail error => exact keeps_throw _
    | subscribe label onEvent onClose =>
      refine keeps_subscribe inert_settled.patient (polite_of_subscribe considerate) ?_
      intro token action does
      exact ih ((polite_of_subscribe considerate token).considerate none action does)
    | unsubscribe label => exact keeps_unsubscribe inert_settled.patient label
    | request request =>
      cases considerate with
      | request allowed => exact Session.keeps_settled_perform (answered_act fun _ => ih) request allowed

/-- What can come about while everyone is considerate. -/
inductive ReachableBy (shifting : Bool) : SheetWorld → Prop
  | created (options : Payload) (equality : CellEquality) (cells : List (Address Number × Cell)) {rows columns : Nat}
      {sheet : Sheet} (dimensions : Dimensions.load options = .ok (rows, columns))
      (made : Sheet.create rows columns equality cells = .ok sheet) : ReachableBy shifting { state := sheet }
  | acted {world : SheetWorld} (earlier : ReachableBy shifting world) (fuel : Nat)
      {action : Action (Change Int) SheetRequest Sheet} (considerate : Considerate shifting action) :
      ReachableBy shifting ((sheetHost.act fuel action).leaves world)

/-- A new sheet has not been disposed of. -/
theorem isDisposed_create {rows columns : Nat} {equality : CellEquality} {cells : List (Address Number × Cell)}
    {sheet : Sheet} (made : Sheet.create rows columns equality cells = .ok sheet) : sheet.isDisposed = false := by
  unfold Sheet.create at made
  have fresh : Sheet.isDisposed { rows, columns, equality } = false := rfl
  generalize ({ rows, columns, equality } : Sheet) = start at fresh made
  induction cells generalizing start with
  | nil =>
    cases made
    exact fresh
  | cons first rest ih =>
    rw [List.foldlM_cons] at made
    obtain ⟨next, written, remaining⟩ := bind_eq_ok_iff.mp made
    obtain ⟨address, _, done⟩ := bind_eq_ok_iff.mp written
    cases done
    refine ih _ ?_ remaining
    exact fresh

theorem ReachableBy.settled (reachable : ReachableBy shifting world) : Settled shifting world := by
  induction reachable with
  | created options equality cells dimensions made =>
    have fresh := isDisposed_create made
    refine ⟨by simp, fun _ => rfl, ?_, ?_, ?_⟩
    · simp [fresh]
    · intro last member
      cases member
    · intro delivery earlier suffix
      simp at suffix
  | acted earlier fuel considerate ih => exact keeps_settled_act considerate _ ih

/-- The end of a sheet is final: its feed ended as it was disposed of, nothing that it holds and no region has changed
since, whenever someone looks, and every call to change it is refused. -/
structure Ended (world : SheetWorld) : Prop where
  closed : world.state.isDisposed = true → ∃ last, .closed last ∈ world.trace
  final : world.state.Final world.trace
  shown : ∀ delivery earlier, .delivered delivery :: earlier <:+ world.trace → delivery.state.Final earlier
  refused : world.state.isDisposed = true → ∀ (publish : Publisher) (close : Session Unit) (request : SheetRequest),
    request.mutates = true → (Session.perform publish close request).outcome world = (.error .disposed, world)

/-- To dispose of a sheet is final at any time, also while its subscribers are told of something, as long as nobody
makes requests when told of a region, or regions are neither moved nor copied. -/
theorem ReachableBy.ends (reachable : ReachableBy shifting world) : Ended world := by
  have settled := reachable.settled
  refine ⟨settled.ended, settled.final, settled.shown, ?_⟩
  intro disposed publish close request mutates
  exact Session.outcome_perform_of_disposed disposed mutates

/-- Also if a subscriber disposes of the sheet when it is told that a cell was written, and then regions are to move. -/
theorem ends_with_closer :
    let start : SheetWorld := { state := { rows := maxRows, columns := maxColumns } }
    let onEvent (delivery : Delivery (Change Int) Sheet) : List (Action (Change Int) SheetRequest Sheet) :=
      if delivery.event.isRegion then [] else [.request .dispose]
    let watched := (sheetHost.act 4 (.subscribe "closer" onEvent none)).leaves start
    let written := (sheetHost.act 4 (.request (.setValue ⟨0, 0⟩ (some (.number 1))))).leaves watched
    let world := (sheetHost.act 4 (.request (.moveMerges ⟨0, 0, 1, 1⟩ ⟨5, 0⟩))).leaves written
    ReachableBy true world ∧ world.state.isDisposed = true ∧ Ended world := by
  intro start onEvent watched written world
  have begin : ReachableBy true start := .created (.record []) {} [] rfl rfl
  have closer : Considerate true (.subscribe "closer" onEvent none) := by
    refine .subscribe ?_ ?_ ?_
    · intro _ delivery region action member
      simp [onEvent, region] at member
    · intro delivery action member
      simp only [onEvent] at member
      split at member
      · cases member
      · rw [List.mem_singleton.mp member]
        exact .request fun shifts => by cases shifts
    · intro actions given
      cases given
  have reachable : ReachableBy true world :=
    ((begin.acted 4 closer).acted 4 (.request fun _ => rfl)).acted 4 (.request fun _ => rfl)
  exact ⟨reachable, by decide +kernel, reachable.ends⟩

/-- Whoever disposes of a sheet when told that the first of two regions goes does not stop the second one from going. -/
theorem not_final_with_moves :
    let start : SheetWorld := { state := { rows := maxRows, columns := maxColumns } }
    let first := (sheetHost.act 4 (.request (.merge ⟨0, 0, 0, 1⟩))).leaves start
    let second := (sheetHost.act 4 (.request (.merge ⟨1, 0, 1, 1⟩))).leaves first
    let watched := (sheetHost.act 4 (.subscribe "closer" (fun _ => [.request .dispose]) none)).leaves second
    let world := (sheetHost.act 4 (.request (.moveMerges ⟨0, 0, 1, 1⟩ ⟨5, 0⟩))).leaves watched
    Reachable world ∧ world.state.regions = [] ∧ ∃ last, .closed last ∈ world.trace ∧ last.regions.length = 1 := by
  intro start first second watched world
  have begin : Reachable start := .created (.record []) {} [] rfl rfl
  have reachable : Reachable world := (((begin.acted 4 _).acted 4 _).acted 4 _).acted 4 _
  have lost : world.state.regions.length = 0 := by decide +kernel
  have recorded : (world.trace.any fun occurrence => match occurrence with
      | .closed last => last.regions.length == 1
      | _ => false) = true := by decide +kernel
  refine ⟨reachable, List.eq_nil_of_length_eq_zero lost, ?_⟩
  obtain ⟨occurrence, member, kept⟩ := List.any_eq_true.mp recorded
  cases occurrence with
  | closed last => exact ⟨last, member, by simpa using kept⟩
  | _ => cases kept

end SheetWorld
end Spreadsheet
