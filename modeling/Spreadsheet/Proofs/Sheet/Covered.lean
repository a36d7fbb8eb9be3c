import Spreadsheet.Proofs.Sheet.Consistency
import Spreadsheet.Proofs.Sheet.Registering

/-! What the covered cells of regions hold. They are emptied when their region is registered. Whoever writes cells does not
ask for regions, so a covered cell may be filled again; but until a writing of it has been told, or waits to be told, it has
neither a value nor rich text. -/
namespace Spreadsheet

theorem MergeRegistry.mem_regions_of_unmerge {registry : MergeRegistry} {address : Address Number} {region : MergeRegion}
    (member : region ∈ (registry.unmerge address).2.regions) : region ∈ registry.regions := by
  unfold unmerge at member
  split at member
  · exact (mem_regions_remove.mp member).1
  · exact member

/-- What no writing changes is the same in a new sheet, whatever its first contents are. -/
theorem Sheet.create_frame {α : Type} (part : Sheet → α) (frame : ∀ sheet change, part (sheet.write change) = part sheet)
    {rows columns : Nat} {equality : CellEquality} {cells : List (Address Number × Cell)} {sheet : Sheet}
    (made : create rows columns equality cells = .ok sheet) : part sheet = part { rows, columns, equality } := by
  unfold create at made
  generalize ({ rows, columns, equality } : Sheet) = start at made ⊢
  induction cells generalizing start with
  | nil =>
    cases made
    rfl
  | cons first rest ih =>
    rw [List.foldlM_cons] at made
    obtain ⟨next, written, remaining⟩ := bind_eq_ok_iff.mp made
    obtain ⟨address, _, done⟩ := bind_eq_ok_iff.mp written
    cases done
    exact (ih _ remaining).trans (frame start _)

theorem Sheet.merges_create {rows columns : Nat} {equality : CellEquality} {cells : List (Address Number × Cell)}
    {sheet : Sheet} (made : create rows columns equality cells = .ok sheet) : sheet.merges = {} :=
  create_frame merges (fun _ _ => rfl) made

namespace Occurrence
variable {Event State : Type}

/-- The event, if one was told. -/
def emission? : Occurrence Event State → Option Event
  | emitted event => some event
  | _ => none

/-- If all that happened was that events were told, it is known from the events. -/
theorem eq_map_emitted {trace : List (Occurrence Event State)} {events : List Event}
    (only : trace.map emission? = events.map some) : trace = events.map emitted := by
  induction events generalizing trace with
  | nil => exact List.map_eq_nil_iff.mp only
  | cons event rest ih =>
    obtain ⟨first, others, rfl, same, more⟩ := List.map_eq_cons_iff.mp only
    rw [ih more]
    cases first <;> cases same
    rfl

end Occurrence

namespace Sheet
variable {rows columns : Nat} {sheet after : Sheet} {region : MergeRegion}
  {trace news : List (Occurrence (Change Int) Sheet)}

/-- The cell has neither a value nor rich text. -/
def Blank (sheet : Sheet) (cell : Address Int) : Prop :=
  (sheet.contents cell).value = none ∧ (sheet.contents cell).richText = none

/-- A writing of the cell is among what has happened, or it waits for a batch to be closed. -/
def Rewritten (sheet : Sheet) (happened : List (Occurrence (Change Int) Sheet)) (cell : Address Int) : Prop :=
  (∃ change area, .emitted change ∈ happened ∧ change.area? = some area ∧ area.contains cell = true) ∨
    ∃ range, sheet.pending = some range ∧ range.contains cell = true

/-- A region has been told, and each of its covered cells is blank if it has not been written since. -/
structure Guards (sheet : Sheet) (trace : List (Occurrence (Change Int) Sheet)) (region : MergeRegion) : Prop where
  told : .emitted (.merge region.cells) ∈ trace
  hidden : ∀ later earlier, trace = later ++ .emitted (.merge region.cells) :: earlier →
    ∀ cell, region.cells.contains cell = true → cell ≠ region.cells.topLeft →
      sheet.Blank cell ∨ sheet.Rewritten later cell

/-- What happens beside the region leaves it guarded, if no cell is filled without being written. -/
theorem Guards.step (guards : sheet.Guards trace region) (silent : .emitted (.merge region.cells) ∉ news)
    (kept : ∀ cell happened, sheet.Blank cell ∨ sheet.Rewritten happened cell →
      after.Blank cell ∨ after.Rewritten (news ++ happened) cell) : after.Guards (news ++ trace) region := by
  refine ⟨List.mem_append_right _ guards.told, ?_⟩
  intro later earlier split cell covered other
  rcases List.append_eq_append_iff.mp split with ⟨rest, rfl, same⟩ | ⟨rest, rfl, same⟩
  · exact kept cell rest (guards.hidden rest earlier same cell covered other)
  · cases rest with
    | nil => simpa using kept cell [] (guards.hidden [] earlier same.symm cell covered other)
    | cons first rest =>
      cases same
      exact absurd (List.mem_append_right later List.mem_cons_self) silent

/-- Less happens if no cell changes and what waits goes on to wait. -/
theorem Guards.mono (guards : sheet.Guards trace region) (contents : after.contents = sheet.contents)
    (pending : after.pending = sheet.pending) : after.Guards trace region := by
  refine guards.step List.not_mem_nil fun cell happened holds => ?_
  rcases holds with blank | written
  · exact .inl (by rwa [Blank, contents])
  · exact .inr (by rwa [Rewritten, pending])

/-- Nothing but the news of a region itself matters to it. -/
theorem Guards.cons {occurrence : Occurrence (Change Int) Sheet} (guards : sheet.Guards trace region)
    (other : occurrence ≠ .emitted (.merge region.cells)) : sheet.Guards (occurrence :: trace) region := by
  refine guards.step (fun member => other (List.mem_singleton.mp member).symm) fun cell happened holds => ?_
  refine holds.imp_right fun written => ?_
  exact written.imp_left fun ⟨change, area, member, named⟩ => ⟨change, area, List.mem_cons_of_mem _ member, named⟩

/-- The area of an edit is told, or waits to be told. -/
theorem rewritten_edited {edit : Edit} {happened : List (Occurrence (Change Int) Sheet)} {cell : Address Int}
    (named : edit.change.area? = some edit.area)
    (written : edit.area.contains cell = true ∨ sheet.Rewritten happened cell) :
    (sheet.edited edit).Rewritten ((sheet.prompt edit.change).map .emitted ++ happened) cell := by
  unfold Rewritten Sheet.edited awaiting prompt
  by_cases closed : sheet.openBatches = 0
  · simp only [if_pos closed, List.map_cons, List.map_nil, List.singleton_append]
    rcases written with inside | ⟨change, area, member, told⟩ | waiting
    · exact .inl ⟨edit.change, edit.area, List.mem_cons_self, named, inside⟩
    · exact .inl ⟨change, area, List.mem_cons_of_mem _ member, told⟩
    · exact .inr waiting
  · simp only [if_neg closed, List.map_nil, List.nil_append, Option.some.injEq]
    rcases written with inside | told | ⟨range, waiting, inside⟩
    · cases waiting : sheet.pending with
      | none => exact .inr ⟨_, rfl, inside⟩
      | some range => exact .inr ⟨_, rfl, Range.contains_trans Range.containsRange_union_right inside⟩
    · exact .inl told
    · rw [waiting]
      exact .inr ⟨_, rfl, Range.contains_trans Range.containsRange_union_left inside⟩

theorem Guards.edited {edit : Edit} (guards : sheet.Guards trace region) (fits : sheet.Fits edit) :
    (sheet.edited edit).Guards ((sheet.prompt edit.change).map .emitted ++ trace) region := by
  refine guards.step ?_ fun cell happened holds => ?_
  · unfold prompt
    split
    · intro member
      have named := fits.named
      rw [← Occurrence.emitted.inj (List.mem_singleton.mp member)] at named
      cases named
    · exact List.not_mem_nil
  · cases inside : edit.area.contains cell with
    | true => exact .inr (rewritten_edited fits.named (.inl inside))
    | false =>
      refine holds.imp (fun blank => ?_) fun written => rewritten_edited fits.named (.inr written)
      have same : (sheet.edited edit).contents cell = sheet.contents cell := by
        rw [contents_edited]
        exact congrArg Holding.plain (fits.edited.holding_eq inside)
      rwa [Blank, same]

/-- What has waited is told when the last batch is closed. -/
theorem Guards.batchClosed (guards : sheet.Guards trace region) :
    sheet.batchClosed.Guards (sheet.due.map .emitted ++ trace) region := by
  unfold due
  by_cases last : sheet.openBatches - 1 = 0
  · rw [if_pos last]
    refine guards.step ?_ fun cell happened holds => holds.imp_right fun written => .inl ?_
    · cases sheet.pending <;> simp
    · rcases written with ⟨change, area, member, told⟩ | ⟨range, waiting, inside⟩
      · exact ⟨change, area, List.mem_append_right _ member, told⟩
      · exact ⟨.range range, range, by simp [waiting], rfl, inside⟩
  · rw [if_neg last]
    exact guards.mono rfl (if_neg last)

/-- A region is registered beside others, and its covered cells are emptied. -/
theorem Guards.merged (sound : sheet.Sound rows columns) {range : Range Number} {merges : MergeRegistry}
    {made : MergeRegion}
    (guards : ∀ region ∈ sheet.regions, sheet.Guards trace region)
    (accepted : sheet.merges.merge range = .ok (made, merges)) :
    ∀ region ∈ (sheet.merged made merges).regions,
      (sheet.merged made merges).Guards (.emitted (.merge made.cells) :: trace) region := by
  obtain ⟨_, rfl, free⟩ := MergeRegistry.merge_ok accepted
  have contents := sound.contents_merged made (sheet.merges.add made)
  intro region member
  rcases List.mem_append.mp member with old | new
  · have apart : region.cells ≠ made.cells := by
      intro same
      have corner := Range.contains_topLeft (sound.merges.proper region old)
      have covered := (sound.merges.covering_iff _ region).mpr ⟨old, corner⟩
      rw [free _ (same ▸ corner)] at covered
      cases covered
    change Guards _ ([.emitted (.merge made.cells)] ++ trace) region
    refine (guards region old).step ?_ fun cell happened holds => ?_
    · simpa using apart
    · refine holds.imp (fun blank => ?_) (Or.imp_left ?_)
      · unfold Blank
        rw [contents]
        split
        · exact ⟨rfl, rfl⟩
        · exact blank
      · rintro ⟨change, area, member, told⟩
        exact ⟨change, area, List.mem_cons_of_mem _ member, told⟩
  · cases List.mem_singleton.mp new
    refine ⟨List.mem_cons_self, fun later earlier split cell covered other => .inl ?_⟩
    unfold Blank
    rw [contents, if_pos ⟨covered, other⟩]
    exact ⟨rfl, rfl⟩

end Sheet

namespace SheetWorld
open Run
variable {rows columns : Nat} {world : SheetWorld} {after : Sheet} {fuel : Nat} {publish : Publisher}
  {close : Session Unit}

/-- The sheet is sound and goes on as long as its feed does, and then all of its regions are guarded. -/
structure Guarded (rows columns : Nat) (world : SheetWorld) : Prop where
  sound : world.state.Sound rows columns
  goes : world.state.isDisposed = false → world.feed.closed = false
  guards : world.state.isDisposed = false → ∀ region ∈ world.state.regions, world.state.Guards world.trace region

theorem patient_guarded : World.Patient (fun _ => True) (Guarded rows columns) where
  subscribers _ _ _ _ := trivial
  feed world feed guarded same _ := ⟨guarded.sound, fun live => same.trans (guarded.goes live), guarded.guards⟩
  record world occurrence guarded quiet _ _ := by
    refine ⟨guarded.sound, guarded.goes, fun live region member => (guarded.guards live region member).cons ?_⟩
    rintro rfl
    cases quiet

/-- The news of anything but a region leaves all regions guarded. -/
theorem Guarded.record {event : Change Int} (guarded : Guarded rows columns world) (other : ∀ cells, event ≠ .merge cells) :
    Guarded rows columns { world with trace := .emitted event :: world.trace } := by
  refine ⟨guarded.sound, guarded.goes, fun live region member => (guarded.guards live region member).cons ?_⟩
  exact fun same => other region.cells (Occurrence.emitted.inj same)

/-- A way to publish by which regions stay guarded that are guarded once the event is recorded. -/
def Announces (rows columns : Nat) (publish : Publisher) : Prop :=
  ∀ (world : SheetWorld) event, Guarded rows columns { world with trace := .emitted event :: world.trace } →
    Guarded rows columns ((publish event).leaves world)

theorem Announces.keeps (announces : Announces rows columns publish) {event : Change Int}
    (other : ∀ cells, event ≠ .merge cells) : Keeps (Guarded rows columns) (publish event) :=
  fun world guarded => announces world event (guarded.record other)

/-- Of acts that are told by one event at most it is enough to look at the regions when it is recorded. -/
theorem Announces.leaves_forM (announces : Announces rows columns publish) {events : List (Change Int)}
    (few : events.length ≤ 1)
    (recorded : Guarded rows columns { world with trace := events.map .emitted ++ world.trace }) :
    Guarded rows columns ((events.forM publish).leaves world) := by
  rcases events with _ | ⟨event, _ | ⟨second, rest⟩⟩
  · exact recorded
  · rw [leaves_forM_singleton]
    exact announces world event recorded
  · simp at few

theorem Guarded.change (guarded : Guarded rows columns world) (sound : after.Sound rows columns)
    (same : after.isDisposed = world.state.isDisposed) {trace : List (Occurrence (Change Int) Sheet)}
    (guards : (∀ region ∈ world.state.regions, world.state.Guards world.trace region) →
      ∀ region ∈ after.regions, after.Guards trace region) :
    Guarded rows columns { world with state := after, trace } :=
  ⟨sound, fun live => guarded.goes (same ▸ live), fun live => guards (guarded.guards (same ▸ live))⟩

/-- Regions stay guarded while others go. -/
theorem Guarded.withMerges (guarded : Guarded rows columns world) {merges : MergeRegistry}
    (sound : (world.state.withMerges merges).Sound rows columns)
    (fewer : ∀ region ∈ merges.regions, region ∈ world.state.regions) :
    Guarded rows columns { world with state := world.state.withMerges merges } :=
  guarded.change sound rfl fun guards region member => (guards region (fewer region member)).mono rfl rfl

/-- Every act keeps regions guarded when it is told. -/
theorem upheld_guarded (announces : Announces rows columns publish) :
    Upheld rows columns publish (Guarded rows columns) where
  sound _ guarded := guarded.sound
  act world events after guarded act := by
    have sound := guarded.sound.act act
    cases act with
    | @edit edit fits =>
      refine announces.leaves_forM ?_ (guarded.change sound (Sheet.isDisposed_edited edit) fun guards region member => ?_)
      · unfold Sheet.prompt
        split <;> simp
      · rw [Sheet.regions, Sheet.merges_edited] at member
        exact (guards region member).edited fits
    | openBatch => exact guarded.change sound rfl fun guards region member => (guards region member).mono rfl rfl
    | closeBatch =>
      refine announces.leaves_forM ?_
        (guarded.change sound rfl fun guards region member => (guards region member).batchClosed)
      unfold Sheet.due
      split
      · cases world.state.pending <;> simp
      · simp
    | merge accepted _ =>
      exact announces.leaves_forM (Nat.le_refl 1)
        (guarded.change sound rfl fun guards => Sheet.Guards.merged guarded.sound guards accepted)
    | unmerge removed _ =>
      refine keeps_forM (fun event member => announces.keeps ?_) _ (guarded.withMerges sound ?_)
      · obtain ⟨region, _, rfl⟩ := List.mem_map.mp member
        exact fun _ same => by cases same
      · exact fun region member => (MergeRegistry.mem_regions_foldl_remove.mp member).1
    | clear =>
      refine keeps_forM (fun event member => announces.keeps ?_) _ (guarded.change sound rfl fun _ region member => ?_)
      · rw [List.mem_singleton.mp member]
        exact fun _ same => by cases same
      · cases member
  withdraw world moving guarded _ := by
    refine keeps_forM (fun region _ => Session.keeps_sheet ?_) world guarded
    intro world guarded
    have taken : Guarded rows columns ((Session.setMerges (world.state.merges.unmerge region.anchor).2).leaves world) :=
      guarded.withMerges (guarded.sound.unmerge _) fun region => MergeRegistry.mem_regions_of_unmerge
    exact leaves_bind taken fun _ => announces.keeps fun _ same => by cases same

/-- As a sheet is disposed of, and its feed ends, nothing is asked of its regions any more. -/
theorem Guarded.ended (guarded : Guarded rows columns world) (disposed : world.state.isDisposed = true) :
    Guarded rows columns world.ended :=
  ⟨guarded.sound, fun live => by simp [World.ended, disposed] at live, fun live => by simp [World.ended, disposed] at live⟩

theorem keeps_guarded_dispose
    (closes : ∀ world, Guarded rows columns world → world.state.isDisposed = true →
      Guarded rows columns (close.leaves world)) :
    Keeps (Guarded rows columns) (Session.dispose close) := by
  apply Session.keeps_sheet
  intro world guarded
  split
  · exact guarded
  · unfold leaves
    rw [outcome_bind_ok (Session.outcome_modifySheet _)]
    have sound := guarded.sound
    refine closes _ ⟨sound.of_parts rfl rfl sound.grid sound.merges sound.waiting, ?_, ?_⟩ rfl
    · exact fun live => by cases live
    · exact fun live => by cases live

/-- Regions stay guarded whatever is done. -/
theorem keeps_guarded_act (fuel : Nat) (action : Action (Change Int) SheetRequest Sheet) :
    Keeps (Guarded rows columns) (sheetHost.act fuel action) := by
  induction fuel generalizing action with
  | zero => exact keeps_throw _
  | succ fuel ih =>
    cases action with
    | fail error => exact keeps_throw _
    | subscribe label onEvent onClose =>
      exact keeps_subscribe patient_guarded (fun _ => trivial) fun _ action _ => ih action
    | unsubscribe label => exact keeps_unsubscribe patient_guarded label
    | request request =>
      refine Session.keeps_perform (upheld_guarded fun world event recorded => ?_) request fun _ =>
        keeps_guarded_dispose fun world guarded disposed => ?_
      · cases closed : world.feed.closed with
        | true =>
          have ended : world.state.isDisposed ≠ false := fun live => by
            have goes : world.feed.closed = false := recorded.goes live
            simp [closed] at goes
          rw [leaves_emit_of_closed _ _ closed]
          exact ⟨recorded.sound, fun live => absurd live ended, fun live => absurd live ended⟩
        | false => exact leaves_emit patient_guarded (fun _ _ action _ => ih action) _ closed recorded
      · cases closed : world.feed.closed with
        | true => rwa [leaves_close_of_closed closed]
        | false =>
          exact leaves_close patient_guarded (fun _ _ action _ => ih action) closed (fun _ _ => trivial)
            (guarded.ended disposed)

theorem Reachable.guarded (reachable : Reachable world) : ∃ rows columns, Guarded rows columns world := by
  induction reachable with
  | created options equality cells dimensions made =>
    have sound := Sheet.sound_create (Dimensions.load_le dimensions) made
    refine ⟨_, _, sound, fun _ => rfl, fun _ region member => ?_⟩
    rw [Sheet.regions, Sheet.merges_create made] at member
    cases member
  | acted earlier fuel action ih =>
    obtain ⟨rows, columns, guarded⟩ := ih
    exact ⟨rows, columns, keeps_guarded_act fuel action _ guarded⟩

/-- In every state that can come about before the sheet is disposed of, a covered cell has neither a value nor rich text,
unless a writing of it has been told since its region was, or waits to be told. -/
theorem Reachable.covered_blank (reachable : Reachable world) (live : world.state.isDisposed = false)
    {region : MergeRegion} (listed : region ∈ world.state.regions) :
    .emitted (.merge region.cells) ∈ world.trace ∧
      ∀ later earlier, world.trace = later ++ .emitted (.merge region.cells) :: earlier →
        ∀ cell, region.cells.contains cell = true → cell ≠ region.cells.topLeft →
          ¬world.state.Rewritten later cell → world.state.Blank cell := by
  obtain ⟨rows, columns, guarded⟩ := reachable.guarded
  obtain ⟨told, hidden⟩ := guarded.guards live region listed
  exact ⟨told, fun later earlier split cell covered other unwritten =>
    (hidden later earlier split cell covered other).resolve_right unwritten⟩

/-- A cell held a number before it was covered, and its neighbour has been written since. -/
theorem covered_blank_beside_writing :
    let start : SheetWorld := { state := { rows := maxRows, columns := maxColumns } }
    let first := (sheetHost.act 1 (.request (.setValue ⟨0, 1⟩ (some (.number 1))))).leaves start
    let joined := (sheetHost.act 1 (.request (.merge ⟨0, 0, 0, 1⟩))).leaves first
    let world := (sheetHost.act 1 (.request (.setValue ⟨0, 0⟩ (some (.number 2))))).leaves joined
    Reachable world ∧ world.state.isDisposed = false ∧ world.state.Blank ⟨0, 1⟩ := by
  intro start first joined world
  have begin : Reachable start := .created (.record []) {} [] rfl rfl
  have reachable : Reachable world := ((begin.acted 1 _).acted 1 _).acted 1 _
  have live : world.state.isDisposed = false := by decide +kernel
  have merged : world.state.regions.map MergeRegion.cells = [⟨0, 0, 0, 1⟩] := by decide +kernel
  have told : world.trace.map Occurrence.emission? =
      [Change.cellValue ⟨0, 0⟩, .merge ⟨0, 0, 0, 1⟩, .cellValue ⟨0, 1⟩].map some := by decide +kernel
  have idle : world.state.pending = none := by decide +kernel
  obtain ⟨region, rest, listed, cells, _⟩ := List.map_eq_cons_iff.mp merged
  refine ⟨reachable, live, ?_⟩
  have split : world.trace =
      [.emitted (.cellValue ⟨0, 0⟩)] ++ .emitted (.merge region.cells) :: [.emitted (.cellValue ⟨0, 1⟩)] := by
    rw [Occurrence.eq_map_emitted told, cells]
    rfl
  refine (reachable.covered_blank live (listed ▸ List.mem_cons_self)).2 _ _ split ⟨0, 1⟩ ?_ ?_ ?_
  · rw [cells]
    decide
  · rw [cells]
    decide
  · rintro (⟨change, area, member, named, inside⟩ | ⟨range, waiting, _⟩)
    · cases List.mem_singleton.mp member
      cases named
      revert inside
      decide
    · rw [idle] at waiting
      cases waiting

/-- Cells that are covered already may be filled. -/
theorem covered_not_blank :
    let start : SheetWorld := { state := { rows := maxRows, columns := maxColumns } }
    let joined := (sheetHost.act 1 (.request (.merge ⟨0, 0, 0, 1⟩))).leaves start
    let world := (sheetHost.act 1 (.request (.fillWithCell ⟨0, 0, 0, 1⟩ (some (.ofValue (.number 5)))))).leaves joined
    Reachable world ∧ world.state.regions.map MergeRegion.cells = [⟨0, 0, 0, 1⟩] ∧
      world.state.value? ⟨0, 1⟩ = some (.number 5) := by
  intro start joined world
  have begin : Reachable start := .created (.record []) {} [] rfl rfl
  exact ⟨(begin.acted 1 _).acted 1 _, by decide +kernel, by decide +kernel⟩

end SheetWorld
end Spreadsheet
