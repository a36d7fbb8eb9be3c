import Spreadsheet.Proofs.Merge.Soundness
import Spreadsheet.Proofs.Sheet.Edits

/-! All that can happen to a sheet, told in six kinds of acts, each with what is told of it. Every act keeps a sheet
sound, and every request is a series of acts: what acts keep, requests keep. -/
namespace Spreadsheet

namespace Sheet
variable {rows columns : Nat} {sheet after : Sheet} {events : List (Change Int)}

/-- What is told when a batch is closed: the pending range, if no other batch is open. -/
def due (sheet : Sheet) : List (Change Int) :=
  if sheet.openBatches - 1 = 0 then (sheet.pending.map Change.range).toList else []

/-- The sheet with one batch more. -/
def batchOpened (sheet : Sheet) : Sheet := { sheet with openBatches := sheet.openBatches + 1 }

/-- The sheet with one batch less. -/
def batchClosed (sheet : Sheet) : Sheet :=
  { sheet with
    openBatches := sheet.openBatches - 1
    pending := if sheet.openBatches - 1 = 0 then none else sheet.pending }

/-- An act of a sheet, with what is told of it. -/
inductive Act : Sheet → List (Change Int) → Sheet → Prop
  | edit {sheet : Sheet} {edit : Edit} (fits : sheet.Fits edit) :
      Act sheet (sheet.prompt edit.change) (sheet.edited edit)
  | openBatch {sheet : Sheet} : Act sheet [] sheet.batchOpened
  | closeBatch {sheet : Sheet} : Act sheet sheet.due sheet.batchClosed
  | merge {sheet : Sheet} {range : Range Number} {region : MergeRegion} {merges : MergeRegistry}
      (accepted : sheet.merges.merge range = .ok (region, merges))
      (within : sheet.area.containsRange region.cells = true) :
      Act sheet [.merge region.cells] { sheet with merges, grid := sheet.grid.eraseCovered region.cells }
  | unmerge {sheet : Sheet} (removed : List MergeRegion)
      (registered : ∀ region ∈ removed, region ∈ sheet.merges.regions) :
      Act sheet (removed.map (.unmerge ·.cells)) { sheet with merges := removed.foldl .remove sheet.merges }
  | clear {sheet : Sheet} : Act sheet [.reset] { sheet with grid := {}, merges := {} }

/-- The cells of a sheet with some rows and columns. -/
def areaOf (rows columns : Nat) : Range Int := ⟨0, 0, rows - 1, columns - 1⟩

/-- A sheet of given dimensions whose contents and regions are sound, and where nothing is pending unless a batch is
open; what is pending is a range of the sheet. -/
structure Sound (rows columns : Nat) (sheet : Sheet) : Prop where
  rows_eq : sheet.rows = rows
  columns_eq : sheet.columns = columns
  bounded : sheet.Bounded
  grid : sheet.grid.Sound (areaOf rows columns)
  merges : sheet.merges.Sound (areaOf rows columns)
  waiting : ∀ range, sheet.pending = some range →
    0 < sheet.openBatches ∧ range.Proper ∧ (areaOf rows columns).containsRange range = true

theorem Sound.area_eq (sound : sheet.Sound rows columns) : sheet.area = areaOf rows columns := by
  simp only [area, areaOf, sound.rows_eq, sound.columns_eq]

private theorem areaOf_positive : 0 ≤ (areaOf rows columns).top ∧ 0 ≤ (areaOf rows columns).left :=
  ⟨Int.le_refl 0, Int.le_refl 0⟩

/-- A sheet stays sound if its contents, its regions and what waits are sound afterwards. -/
theorem Sound.of_parts (sound : sheet.Sound rows columns) (rows_eq : after.rows = sheet.rows)
    (columns_eq : after.columns = sheet.columns) (grid : after.grid.Sound (areaOf rows columns))
    (merges : after.merges.Sound (areaOf rows columns))
    (waiting : ∀ range, after.pending = some range →
      0 < after.openBatches ∧ range.Proper ∧ (areaOf rows columns).containsRange range = true) :
    after.Sound rows columns where
  rows_eq := rows_eq.trans sound.rows_eq
  columns_eq := columns_eq.trans sound.columns_eq
  bounded := ⟨rows_eq ▸ sound.bounded.rows, columns_eq ▸ sound.bounded.columns⟩
  grid := grid
  merges := merges
  waiting := waiting

theorem Sound.edited {edit : Edit} (sound : sheet.Sound rows columns) (fits : sheet.Fits edit) :
    (sheet.edited edit).Sound rows columns := by
  have inside := sound.area_eq ▸ fits.inside
  have grid := sound.grid.edited areaOf_positive inside fits.edited
  unfold Sheet.edited awaiting
  split
  · exact sound.of_parts rfl rfl grid sound.merges sound.waiting
  · rename_i opened
    refine sound.of_parts rfl rfl grid sound.merges ?_
    intro range same
    cases waiting : sheet.pending with
    | none =>
      simp only [waiting, Option.map_none, Option.getD_none, Option.some.injEq] at same
      exact ⟨Nat.pos_of_ne_zero opened, same ▸ fits.proper, same ▸ inside⟩
    | some earlier =>
      simp only [waiting, Option.map_some, Option.getD_some, Option.some.injEq] at same
      obtain ⟨_, proper, within⟩ := sound.waiting earlier waiting
      exact ⟨Nat.pos_of_ne_zero opened, same ▸ Range.proper_union proper,
        same ▸ Range.containsRange_union within inside⟩

/-- Every act keeps a sheet sound. -/
theorem Sound.act (sound : sheet.Sound rows columns) (act : Act sheet events after) : after.Sound rows columns := by
  cases act with
  | edit fits => exact sound.edited fits
  | openBatch =>
    refine sound.of_parts rfl rfl sound.grid sound.merges ?_
    intro range waiting
    exact ⟨Nat.succ_pos _, (sound.waiting range waiting).2⟩
  | closeBatch =>
    refine sound.of_parts rfl rfl sound.grid sound.merges ?_
    intro range waiting
    simp only [batchClosed] at waiting ⊢
    split at waiting
    · cases waiting
    · rename_i more
      exact ⟨Nat.pos_of_ne_zero more, (sound.waiting range waiting).2⟩
  | merge accepted within =>
    have inside := sound.area_eq ▸ within
    have grid := sound.grid.edited areaOf_positive inside Grid.edited_eraseCovered
    exact sound.of_parts rfl rfl grid (sound.merges.merge accepted inside) sound.waiting
  | unmerge removed registered =>
    have removable := fun region member => sound.merges.removable (registered region member)
    exact sound.of_parts rfl rfl sound.grid (sound.merges.foldl_remove removable) sound.waiting
  | clear =>
    exact sound.of_parts rfl rfl (Grid.sound_empty _) (MergeRegistry.sound_empty _) sound.waiting

end Sheet

/-- A sheet with its feed, and all that has happened to them. -/
abbrev SheetWorld := World (Change Int) SheetRequest Sheet

/-- Makes requests one after another, whether they fail or not. -/
def SheetWorld.ask (publish : Publisher) (close : Session Unit) (world : SheetWorld) (requests : List SheetRequest) :
    SheetWorld :=
  requests.foldl (fun world request => (Session.perform publish close request).leaves world) world

/-- Takes away the region at the anchor of a region that moves. -/
def Session.takeAway (publish : Publisher) (region : MergeRegion) : Session Unit := do
  setMerges ((← sheet).merges.unmerge region.anchor).2
  publish (.unmerge region.cells)

/-- The first part of a move of regions: they are taken away one after another. -/
def Session.withdraw (publish : Publisher) (moving : List MergeRegion) : Session Unit := moving.forM (takeAway publish)

/-- A property of worlds whose sheets are sound, which every act keeps once it has been told. When regions move, a
subscriber may change the sheet between two of them, so that what is told and what is done need not agree; that the
property is kept there too is asked for by itself. -/
structure Upheld (rows columns : Nat) (publish : Publisher) (inv : SheetWorld → Prop) : Prop where
  sound : ∀ world, inv world → world.state.Sound rows columns
  act : ∀ world events after, inv world → world.state.Act events after →
    inv (Run.leaves (events.forM publish) { world with state := after })
  withdraw : ∀ world moving, inv world → moving.Sublist world.state.merges.regions →
    inv (Run.leaves (Session.withdraw publish moving) world)

mutual

/-- The request may end the sheet. -/
def SheetRequest.disposes : SheetRequest → Bool
  | .dispose => true
  | .batch requests | .attempt requests => anyDisposes requests
  | _ => false

/-- One of the requests may end the sheet. -/
def SheetRequest.anyDisposes : List SheetRequest → Bool
  | [] => false
  | request :: rest => request.disposes || anyDisposes rest

end

/-- The lines of a range consist of its cells. -/
theorem FillDirection.contains_of_mem_runs {direction : FillDirection} {range : Range Int} {line : List (Address Int)}
    {address : Address Int} (listed : line ∈ direction.runs range) (member : address ∈ line) :
    range.contains address = true := by
  unfold runs at listed
  obtain ⟨column, columns, rfl⟩ := List.mem_map.mp listed
  have place : ∃ row ∈ Range.span (range.oriented direction.vertical).top (range.oriented direction.vertical).bottom,
      (Address.mk row column).oriented direction.vertical = address := by
    split at member
    · exact List.mem_map.mp (List.mem_reverse.mp member)
    · exact List.mem_map.mp member
  obtain ⟨row, rows, rfl⟩ := place
  rw [Range.mem_span] at columns rows
  rw [Range.contains_iff]
  cases vertical : direction.vertical
  · simp only [vertical, Range.oriented, Range.transpose, Address.oriented, Address.transpose, Bool.false_eq_true,
      ↓reduceIte] at columns rows ⊢
    omega
  · simp only [vertical, Range.oriented, Address.oriented, ↓reduceIte] at columns rows ⊢
    omega

namespace Session
open Sheet Run
variable {rows columns : Nat} {publish : Publisher} {close : Session Unit} {inv : SheetWorld → Prop}

/-- After a check, what it has found may be used. -/
theorem keeps_check {α β : Type} {f : Sheet → Except SheetError α} {rest : α → Session β}
    (passed : ∀ world value, inv world → f world.state = .ok value → inv ((rest value).leaves world)) :
    Keeps inv (check f >>= rest) := by
  intro world holds
  unfold leaves
  cases found : f world.state with
  | error error =>
    rw [outcome_check_error found]
    exact holds
  | ok value =>
    rw [outcome_check_ok found]
    exact passed world value holds found

/-- The sheet that is read is that of the world. -/
theorem keeps_sheet {β : Type} {rest : Sheet → Session β}
    (kept : ∀ world, inv world → inv ((rest world.state).leaves world)) : Keeps inv (sheet >>= rest) :=
  keeps_read (fun _ => outcome_sheet) kept

theorem outcome_endBatch (world : SheetWorld) :
    (endBatch publish).outcome world =
      (world.state.due.forM publish).outcome { world with state := world.state.batchClosed } := by
  unfold endBatch
  rw [outcome_bind_ok (outcome_modifySheet _), outcome_bind_ok outcome_sheet]
  unfold due batchClosed
  cases waiting : world.state.pending with
  | none =>
    simp only [Option.map_none, Option.toList_none, ite_self]
    rfl
  | some range =>
    simp only [Option.map_some, Option.toList_some]
    by_cases last : world.state.openBatches - 1 = 0
    · simp only [last, ↓reduceIte]
      rw [outcome_bind_ok (outcome_modifySheet _)]
      exact (outcome_bind_unit _).symm
    · simp only [last, ↓reduceIte]
      rfl

section acts
variable (upheld : Upheld rows columns publish inv)
include upheld

/-- A request for an edit is an act, unless it is refused. -/
theorem keeps_edit {request : SheetRequest} {world : SheetWorld} {result : Except SheetError Edit} (holds : inv world)
    (asked : world.state.edit? request = some result) : inv ((perform publish close request).leaves world) := by
  unfold leaves
  rw [outcome_perform_edit asked]
  cases result with
  | error error => exact holds
  | ok edit =>
    rw [outcome_settle_ok]
    exact upheld.act world _ _ holds (.edit (edit?_fits (upheld.sound world holds).bounded asked))

theorem keeps_beginBatch : Keeps inv beginBatch := by
  apply keeps_check
  intro world _ holds _
  exact upheld.act world [] _ holds .openBatch

theorem keeps_endBatch : Keeps inv (endBatch publish) := by
  intro world holds
  unfold leaves
  rw [outcome_endBatch]
  exact upheld.act world _ _ holds .closeBatch

theorem keeps_batch {α : Type} {body : Session α} (kept : Keeps inv body) : Keeps inv (batch publish body) :=
  keeps_bind (keeps_beginBatch upheld) fun _ =>
    keeps_bind (keeps_attempt kept) fun _ => keeps_bind (keeps_endBatch upheld) fun _ => keeps_lift _

theorem keeps_put {address : Address Int} (within : (areaOf rows columns).contains address = true)
    (made : Except SheetError (Option Cell)) : Keeps inv (put publish (address, made)) := by
  intro world holds
  unfold leaves
  rw [outcome_put]
  cases made with
  | error error => exact holds
  | ok cell =>
    rw [Except.map, outcome_settle_ok]
    have inside := (upheld.sound world holds).area_eq ▸ within
    exact upheld.act world _ _ holds (.edit (putEdit_fits inside cell))

theorem keeps_writeAll {cells : List (Address Int × Except SheetError (Option Cell))}
    (within : ∀ made ∈ cells, (areaOf rows columns).contains made.1 = true) : Keeps inv (writeAll publish cells) := by
  rw [writeAll_eq]
  exact keeps_batch upheld (keeps_forM fun made member => keeps_put upheld (within made member) made.2)

/-- A range that may be written lies in the sheet. -/
theorem within_of_writableRange {world : SheetWorld} {range : Range Number} {cells : Range Int} (holds : inv world)
    (passed : world.state.writableRange range = .ok cells) :
    (areaOf rows columns).containsRange cells = true :=
  (upheld.sound world holds).area_eq ▸ (writableRange_ok_iff.mp passed).2.2.2

theorem keeps_fillRange (source : Address Number) (target : Range Number) (generator : Option Generator) :
    Keeps inv (fillRange publish source target generator) := by
  apply keeps_check
  intro world cells holds passed
  have within : ∀ address ∈ cells.cells, (areaOf rows columns).contains address = true := fun address member =>
    Range.contains_trans (within_of_writableRange upheld holds passed) (Range.mem_cells.mp member)
  refine keeps_sheet ?_ world holds
  intro world holds
  dsimp only
  split
  · refine keeps_writeAll upheld ?_ world holds
    intro made member
    obtain ⟨address, inside, rfl⟩ := List.mem_map.mp member
    exact within address inside
  · refine keeps_writeAll upheld ?_ world holds
    intro made member
    obtain ⟨address, inside, rfl⟩ := List.mem_map.mp member
    exact within address inside
  · exact holds

/-- Registers a region of the sheet. -/
theorem keeps_addMerge {range : Range Number}
    (within : ∀ cells, range.toInt? = some cells → (areaOf rows columns).containsRange cells = true) :
    Keeps inv (addMerge publish range) := by
  apply keeps_check
  intro world accepted holds passed
  obtain ⟨region, merges⟩ := accepted
  have named : range.toInt? = some region.cells := by
    have given := (MergeRegion.ofRange_ok (MergeRegistry.merge_ok passed).1).1
    rw [← given]
    exact region.named
  have inside : world.state.area.containsRange region.cells = true :=
    (upheld.sound world holds).area_eq ▸ within region.cells named
  have kept := upheld.act world _ _ holds (.merge passed inside)
  rw [leaves_forM_singleton] at kept
  change inv (leaves (publish (.merge region.cells) >>= fun _ => pure region) _)
  rwa [leaves_bind_pure]

theorem keeps_merge (range : Range Number) : Keeps inv (merge publish range) := by
  apply keeps_check
  intro world cells holds passed
  refine keeps_addMerge upheld ?_ world holds
  intro found named
  rw [(writableRange_ok_iff.mp passed).2.1, Option.some.injEq] at named
  exact named ▸ within_of_writableRange upheld holds passed

theorem keeps_unmerge (address : Address Number) : Keeps inv (unmerge publish address) := by
  refine keeps_check fun world _ holds _ => keeps_sheet ?_ world holds
  intro world holds
  unfold MergeRegistry.unmerge
  cases found : world.state.merges.at? address with
  | none => exact holds
  | some region =>
    have registered := (upheld.sound world holds).merges.mem_of_at? found
    have kept := upheld.act world _ _ holds (.unmerge [region] (by simpa using registered))
    rw [List.map_singleton, leaves_forM_singleton] at kept
    change inv (leaves (publish (.unmerge region.cells) >>= fun _ => pure (some region)) _)
    rwa [leaves_bind_pure]

theorem keeps_unmergeInRange (range : Range Number) : Keeps inv (unmergeInRange publish range) := by
  refine keeps_check fun world _ holds _ => keeps_sheet ?_ world holds
  intro world holds
  have kept := upheld.act world _ _ holds
    (.unmerge (world.state.merges.inRange range) fun region member => (List.mem_filter.mp member).1)
  change inv (leaves ((world.state.merges.inRange range).forM (fun region => publish (.unmerge region.cells)) >>=
    fun _ => pure (world.state.merges.inRange range)) _)
  rw [leaves_bind_pure]
  simpa only [List.forM_eq_forM, List.forM_map] using kept

/-- A given range that does not leave the sheet may be merged. -/
theorem keeps_addMerge_of_mem {world : SheetWorld} {targets : List (Range Number)} {target : Range Number}
    (holds : inv world) (member : target ∈ targets.filter world.state.holds) : Keeps inv (addMerge publish target) := by
  apply keeps_addMerge upheld
  intro cells named
  rw [← (upheld.sound world holds).area_eq]
  exact containsRange_of_holds named (List.mem_filter.mp member).2

theorem keeps_moveMerges (source : Range Number) (destination : Address Number) :
    Keeps inv (moveMerges publish source destination) := by
  refine keeps_check fun world _ holds _ => keeps_sheet ?_ world holds
  intro world holds
  refine leaves_bind (upheld.withdraw world (world.state.merges.inside source) holds ?_) ?_
  · exact List.filter_sublist.trans List.filter_sublist
  · intro _
    apply keeps_sheet
    intro world holds
    refine keeps_bind (keeps_mapM ?_) ?_ world holds
    · intro target member
      exact keeps_bind (keeps_unmergeInRange upheld target) fun _ => keeps_addMerge_of_mem upheld holds member
    · intro _
      exact keeps_bind (keeps_lift _) fun _ => keeps_pure _

theorem keeps_replicateMerges (source target : Range Number) (vertical : Bool) :
    Keeps inv (replicateMerges publish source target vertical) := by
  refine keeps_check fun world _ holds _ => keeps_sheet ?_ world holds
  intro world holds
  dsimp only
  split
  · exact holds
  · refine keeps_bind (keeps_unmergeInRange upheld target) (fun _ => keeps_sheet ?_) world holds
    intro world holds
    refine keeps_bind (keeps_mapM fun copy member => keeps_addMerge_of_mem upheld holds member) ?_ world holds
    intro _
    exact keeps_bind (keeps_lift _) fun _ => keeps_bind (keeps_lift _) fun _ => keeps_pure _

omit upheld in
/-- What a fill makes stays in its target. -/
theorem contains_of_mem_continued {state : Sheet} {direction : FillDirection} {origin : Address Number}
    {source target : Range Int} {generator : Option Generator} {made : Address Int × Except SheetError (Option Cell)}
    (member : made ∈ state.continued direction origin source target generator) : target.contains made.1 = true := by
  unfold Sheet.continued at member
  obtain ⟨⟨line, places⟩, paired, inside⟩ := List.mem_flatMap.mp member
  obtain ⟨⟨address, index⟩, placed, rfl⟩ := List.mem_map.mp inside
  exact FillDirection.contains_of_mem_runs (List.of_mem_zip paired).2 (List.fst_mem_of_mem_zipIdx placed)

theorem keeps_smartFill (source destination : Range Number) (generator : Option Generator) :
    Keeps inv (smartFill publish source destination generator) := by
  apply keeps_check
  intro world sourceCells holds _
  split
  · exact holds
  · refine keeps_bind (keeps_lift _) (fun stripCells => keeps_sheet ?_) world holds
    intro world holds
    refine keeps_check ?_ world holds
    intro world targetCells holds passed
    refine keeps_bind (keeps_writeAll upheld ?_) ?_ world holds
    · intro made member
      exact Range.contains_trans (within_of_writableRange upheld holds passed) (contains_of_mem_continued member)
    · intro _
      exact keeps_bind (keeps_replicateMerges upheld _ _ _) fun _ => keeps_pure _

theorem keeps_clear : Keeps inv (clear publish) := by
  apply keeps_check
  intro world _ holds _
  have kept := upheld.act world _ _ holds .clear
  rwa [leaves_forM_singleton] at kept

end acts

mutual

/-- Every request keeps what acts keep. -/
theorem keeps_perform (upheld : Upheld rows columns publish inv) (request : SheetRequest)
    (ends : request.disposes = true → Keeps inv (dispose close)) :
    Keeps inv (perform publish close request) := by
  cases request with
  | setValue | setStyle | setFormat | setRichText | setCell => exact fun _ holds => keeps_edit upheld holds rfl
  | clearRange | clearValues | clearStyles | clearFormats | fillWithCell =>
    exact fun _ holds => keeps_edit upheld holds rfl
  | copyRange => exact fun _ holds => keeps_edit upheld holds rfl
  | fillRange source target generator => exact keeps_fillRange upheld source target generator
  | smartFill source destination generator =>
    exact keeps_bind (keeps_smartFill upheld source destination generator) fun _ => keeps_pure _
  | merge range => exact keeps_bind (keeps_merge upheld range) fun _ => keeps_pure _
  | unmerge address => exact keeps_bind (keeps_unmerge upheld address) fun _ => keeps_pure _
  | unmergeInRange range => exact keeps_bind (keeps_unmergeInRange upheld range) fun _ => keeps_pure _
  | moveMerges source destination =>
    exact keeps_bind (keeps_moveMerges upheld source destination) fun _ => keeps_pure _
  | replicateMerges source target vertical =>
    exact keeps_bind (keeps_replicateMerges upheld source target vertical) fun _ => keeps_pure _
  | clear => exact keeps_clear upheld
  | beginBatch => exact keeps_beginBatch upheld
  | endBatch => exact keeps_endBatch upheld
  | batch requests => exact keeps_batch upheld (keeps_performAll upheld requests ends)
  | attempt requests => exact keeps_bind (keeps_attempt (keeps_performAll upheld requests ends)) fun _ => keeps_pure _
  | giveUp error => exact keeps_throw error
  | dispose => exact ends rfl

theorem keeps_performAll (upheld : Upheld rows columns publish inv) (requests : List SheetRequest)
    (ends : SheetRequest.anyDisposes requests = true → Keeps inv (dispose close)) :
    Keeps inv (performAll publish close requests) := by
  cases requests with
  | nil => exact keeps_pure _
  | cons request rest =>
    refine keeps_bind (keeps_perform upheld request fun last => ends ?_) fun _ =>
      keeps_performAll upheld rest fun last => ends ?_
    · simp [SheetRequest.anyDisposes, last]
    · simp [SheetRequest.anyDisposes, last]

end

end Session
end Spreadsheet
