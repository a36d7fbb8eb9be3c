import Spreadsheet.Proofs.Coordinate.Checked
import Spreadsheet.Proofs.Feed.Moments
import Spreadsheet.Proofs.Number.Order

/-! When a listener that throws spoils an emission for those after it. Its failure is caught, and then the event is put into
words for the record, which may fail in its turn: only a cell that has a notation can be told of. -/
namespace Spreadsheet

open Occurrence (calls emissions)

namespace A1
variable {address : Address Number} {range : Range Number}

theorem exists_ofAddress_iff : (∃ text, ofAddress address = .ok text) ↔ ∃ cell, address.checked = .ok cell := by
  constructor
  · rintro ⟨_, wrote⟩
    obtain ⟨row, first, rest⟩ := bind_eq_ok_iff.mp wrote
    obtain ⟨column, second, _⟩ := bind_eq_ok_iff.mp rest
    exact ⟨⟨row, column⟩, bind_eq_ok_iff.mpr ⟨row, first, bind_eq_ok_iff.mpr ⟨column, second, rfl⟩⟩⟩
  · rintro ⟨cell, passed⟩
    exact ⟨_, ofAddress_of_checked passed⟩

/-- A range is written by its corners. If they are one cell, only the first of them is looked at. -/
theorem exists_ofRange_iff : (∃ text, ofRange range = .ok text) ↔
    (∃ cell, range.topLeft.checked = .ok cell) ∧ ∃ cell, range.bottomRight.checked = .ok cell := by
  unfold ofRange
  rw [← exists_ofAddress_iff, ← exists_ofAddress_iff]
  constructor
  · rintro ⟨_, wrote⟩
    obtain ⟨start, first, rest⟩ := bind_eq_ok_iff.mp wrote
    refine ⟨⟨start, first⟩, ?_⟩
    split at rest
    · rename_i single
      obtain ⟨cell, passed⟩ := exists_ofAddress_iff.mp ⟨start, first⟩
      obtain ⟨named, positive⟩ := Address.checked_ok_iff.mp passed
      obtain ⟨row, column⟩ := Address.toInt?_eq_some_iff.mp named
      obtain ⟨sameRow, sameColumn⟩ := Bool.and_eq_true_iff.mp single
      refine exists_ofAddress_iff.mpr ⟨cell, Address.checked_ok_iff.mpr ⟨?_, positive⟩⟩
      exact Address.toInt?_eq_some_iff.mpr ⟨Number.toInt?_of_same row sameRow, Number.toInt?_of_same column sameColumn⟩
    · obtain ⟨stop, second, _⟩ := bind_eq_ok_iff.mp rest
      exact ⟨stop, second⟩
  · rintro ⟨⟨start, first⟩, stop, second⟩
    simp only [first, second]
    split
    · exact ⟨_, rfl⟩
    · exact ⟨_, rfl⟩

end A1

namespace Change

/-- The cells by whose notation a change is told. -/
def corners : Change Number → List (Address Number)
  | cellValue cell | cellStyle cell | cellFormat cell => [cell]
  | range area | merge area | unmerge area => [area.topLeft, area.bottomRight]
  | rowInserted _ | rowDeleted _ | columnInserted _ | columnDeleted _ | reset => []

/-- A change can be told if all of its cells have whole coordinates that are not negative. -/
def IsTellable (change : Change Number) : Prop := ∀ corner ∈ change.corners, ∃ cell, corner.checked = .ok cell

theorem exists_describe_iff {change : Change Number} : (∃ text, change.describe = .ok text) ↔ change.IsTellable := by
  have titled (title : String) (written : Except SheetError (List Char)) :
      (∃ text, written.map (Change.titled title) = .ok text) ↔ ∃ content, written = .ok content := by
    cases written <;> simp [Except.map]
  unfold IsTellable
  cases change <;> simp [corners, describe, titled, A1.exists_ofAddress_iff, A1.exists_ofRange_iff]

end Change

namespace Run
variable {Event Request State : Type} {world reached : World Event Request State}
  {run : Action Event Request State → Run Event Request State Unit} {describe : Event → Except SheetError String}
  {event : Event} {emission : Nat} {subscription : Subscription Event Request State}
  {rest : List (Subscription Event Request State)}

/-- Whatever a listener does, its failure ends with it if the event can be told. -/
theorem outcome_deliver_of_describe {text : String} (tells : describe event = .ok text) :
    ((deliver run describe emission event subscription).outcome world).1 = .ok () := by
  rw [outcome_deliver, outcome_tryCatch]
  split
  · rfl
  · rw [outcome_bind_ok (outcome_lift _ |>.trans (by rw [tells]))]
    rfl

/-- If the event cannot be told, the failure of a listener is followed by another one. -/
theorem outcome_deliver_eq_ok_iff {error : SheetError} (fails : describe event = .error error) :
    ((deliver run describe emission event subscription).outcome world).1 = .ok () ↔
      ((all run (subscription.onEvent (world.callOf emission event subscription))).outcome
        (world.calling emission event subscription)).1 = .ok () := by
  rw [outcome_deliver, outcome_tryCatch]
  split <;> rename_i same <;> rw [same]
  rw [outcome_bind_error (outcome_lift _ |>.trans (by rw [fails]))]
  simp

/-- If none fails, no turn has failed. -/
theorem Reaches.outcome_of_deliverAll {deliverTo : Subscription Event Request State → Run Event Request State Unit}
    (reaches : Reaches deliverTo rest world subscription reached)
    (done : ((deliverAll deliverTo rest).outcome world).1 = .ok ()) :
    ((deliverTo subscription).outcome reached).1 = .ok () := by
  induction reaches with
  | now =>
    rw [outcome_deliverAll_cons] at done
    split at done <;> rename_i same
    · rw [same]
    · cases done
  | later first _ ih =>
    rw [outcome_deliverAll_cons, first] at done
    exact ih done

end Run

/-- An event is emitted: nothing fails, and all subscribers that there are as it begins are called with it, in their
order. -/
def FeedWorld.Serves (world : FeedWorld) (fuel : Nat) (change : Change Number) : Prop :=
  ∃ after, (bareFeed.act (fuel + 1) (.request (.emit change))).outcome world = (.ok (), after) ∧
    calls (emissions world.trace) after.trace =
      world.feed.subscriptions.map fun subscription => (subscription.token, change)

theorem Moment.serves_iff_of_opened {world : FeedWorld} (moment : Moment world) {fuel : Nat} {change : Change Number}
    (opened : world.feed.closed = false) : world.Serves fuel change ↔
      ((Run.emit (bareFeed.act fuel) bareFeed.describe change).outcome world).1 = .ok () := by
  constructor
  · rintro ⟨after, done, _⟩
    exact congrArg Prod.fst done
  · intro done
    exact ⟨_, Prod.ext done rfl, Run.calls_of_emit (bareFeed_steady fuel) moment.orderly opened done⟩

/-- An event is emitted to everybody, whoever throws, if it can be told; else it is if nobody throws. -/
theorem Moment.serves_iff {world : FeedWorld} (moment : Moment world) (fuel : Nat) (change : Change Number) :
    world.Serves fuel change ↔ change.IsTellable ∨ world.Calm fuel change := by
  by_cases closed : world.feed.closed = true
  · have nobody : world.feed.subscriptions = [] := by
      have none := moment.orderly.history.present_eq_nil (moment.orderly.closed ▸ closed)
      rw [← moment.orderly.present] at none
      exact List.map_eq_nil_iff.mp none
    refine iff_of_true ⟨world, Run.outcome_emit_of_closed closed, ?_⟩ (.inr ?_)
    · rw [nobody]
      exact moment.orderly.history.calls_eq_nil (Nat.le_refl _)
    · intro subscription reached reaches
      rw [nobody] at reaches
      cases reaches
  · have opened : world.feed.closed = false := by simpa using closed
    rw [moment.serves_iff_of_opened opened, Run.outcome_emit opened]
    cases tells : change.describe with
    | ok text =>
      refine iff_of_true (Run.outcome_deliverAll_of_reaches fun _ _ _ => Run.outcome_deliver_of_describe tells) (.inl ?_)
      exact Change.exists_describe_iff.mp ⟨text, tells⟩
    | error error =>
      have silent : ¬change.IsTellable := by
        intro tellable
        obtain ⟨text, told⟩ := Change.exists_describe_iff.mpr tellable
        rw [tells] at told
        cases told
      rw [or_iff_right silent]
      constructor
      · exact fun done _ _ reaches => (Run.outcome_deliver_eq_ok_iff tells).mp (reaches.outcome_of_deliverAll done)
      · intro calm
        exact Run.outcome_deliverAll_of_reaches fun subscription reached reaches =>
          (Run.outcome_deliver_eq_ok_iff tells).mpr (calm subscription reached reaches)

/-- Two subscribe, the first of whom fails whenever it is called. -/
def disturbed : FeedWorld :=
  (bareFeed.act 1 (.subscribe "b" (fun _ => []) none)).leaves
    ((bareFeed.act 1 (.subscribe "a" (fun _ => [.fail .disposed]) none)).leaves { state := () })

theorem moment_disturbed : Moment disturbed := .acted _ _ (.acted _ _ .start)

theorem serves_despite_failure :
    Moment disturbed ∧ disturbed.Serves 3 (.cellValue ⟨2, 1⟩) ∧
      disturbed.feed.subscriptions.map (·.token) = [0, 1] := by
  refine ⟨moment_disturbed, (moment_disturbed.serves_iff 3 _).mpr (.inl fun corner member => ?_), rfl⟩
  rw [List.mem_singleton.mp member]
  exact ⟨⟨2, 1⟩, Address.checked_ok_iff.mpr ⟨by decide +kernel, by decide, by decide⟩⟩

/-- There is no notation for a cell above the sheet. The second listener is not called, and who emits the event fails. -/
theorem not_serves_above_sheet :
    Moment disturbed ∧ disturbed.feed.subscriptions.map (·.token) = [0, 1] ∧
      ((bareFeed.act 4 (.request (.emit (.cellValue ⟨-1, 0⟩)))).outcome disturbed).1.isOk = false ∧
      (calls 0 ((bareFeed.act 4 (.request (.emit (.cellValue ⟨-1, 0⟩)))).leaves disturbed).trace).map Prod.fst = [0] :=
  ⟨moment_disturbed, rfl, by decide +kernel, by decide +kernel⟩

end Spreadsheet
