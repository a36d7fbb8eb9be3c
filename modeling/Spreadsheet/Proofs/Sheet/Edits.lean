import Spreadsheet.Proofs.Coordinate.Moved
import Spreadsheet.Proofs.Feed.Runs
import Spreadsheet.Proofs.Sheet.RangeWriting
import Spreadsheet.Sheet.Host

/-! Requests that write one area of a sheet. Each of them is an edit: it is refused or it changes the contents of an
area that lies in the sheet, and what it tells names this area. -/
namespace Spreadsheet

/-- The area whose contents a change tells to be read again, if that is all it tells. -/
def Change.area? : Change Int → Option (Range Int)
  | cellValue cell | cellStyle cell | cellFormat cell => some (.single cell)
  | range area => some area
  | _ => none

/-- What a request that was accepted does: the contents and the count of writings after it, the area, and what is told
of it. -/
structure Edit where
  area : Range Int
  change : Change Int
  grid : Grid
  writings : Nat

/-- The area that a request to write one area names by its arguments. -/
def SheetRequest.target? : SheetRequest → Option (Range Int)
  | .setValue address _ | .setStyle address _ | .setFormat address _ | .setRichText address _ | .setCell address _ =>
    address.toInt?.map .single
  | .clearRange range | .clearValues range | .clearStyles range | .clearFormats range | .fillWithCell range _ =>
    range.toInt?
  | .copyRange source destination => (source.moved source.topLeft destination).toInt?
  | _ => none

namespace Sheet
variable {sheet : Sheet} {publish : Publisher} {close : Session Unit}

/-- The edit of one cell. -/
def editCell (sheet : Sheet) (address : Address Number) (change : Address Int → Change Int)
    (put : Nat → Grid → Address Int → Grid) : Except SheetError Edit :=
  (sheet.writable address).map fun cell =>
    ⟨.single cell, change cell, put sheet.writings sheet.grid cell, sheet.writings + 1⟩

/-- The edit of a range. -/
def editRange (sheet : Sheet) (range : Range Number) (put : Nat → Grid → Range Int → Grid) : Except SheetError Edit :=
  (sheet.writableRange range).map fun cells =>
    ⟨cells, .range cells, put sheet.writings sheet.grid cells, sheet.writings + 1⟩

/-- The edit that copies a range. It brings in nothing new, so the writings are not counted on. -/
def copyEdit (sheet : Sheet) (source : Range Number) (destination : Address Number) : Except SheetError Edit := do
  let cells ← sheet.writableRange source
  let target ← sheet.writableRange (source.moved source.topLeft destination)
  return ⟨target, .range target, sheet.grid.copy cells target.topLeft, sheet.writings⟩

/-- The edit that a request asks for, or why it is refused; none if the request is not to write one area. -/
def edit? (sheet : Sheet) : SheetRequest → Option (Except SheetError Edit)
  | .setValue address value =>
    some (sheet.editCell address .cellValue fun stamp grid cell => grid.putValue cell (value.map (⟨·, some stamp⟩)))
  | .setStyle address style =>
    some (sheet.editCell address .cellStyle fun stamp grid cell => grid.putStyle cell (style.map (⟨·, some stamp⟩)))
  | .setFormat address format =>
    some (sheet.editCell address .cellFormat fun stamp grid cell =>
      grid.putFormat cell (format.map (⟨·, some stamp⟩)))
  | .setRichText address richText =>
    some (sheet.editCell address .cellValue fun stamp grid cell =>
      grid.putRichText cell (richText.map (⟨·, some stamp⟩)))
  | .setCell address content =>
    some (sheet.editCell address (fun cell => .range (.single cell)) fun stamp grid cell =>
      grid.putCell cell (content.map (·.stamped stamp)))
  | .clearRange range => some (sheet.editRange range fun _ grid range => grid.erase (grid.populatedIn range))
  | .clearValues range => some (sheet.editRange range fun _ grid range => grid.eraseValues (grid.populatedIn range))
  | .clearStyles range => some (sheet.editRange range fun _ grid range => grid.eraseStyles (grid.populatedIn range))
  | .clearFormats range => some (sheet.editRange range fun _ grid range => grid.eraseFormats (grid.populatedIn range))
  | .fillWithCell range cell =>
    some (sheet.editRange range fun stamp grid range => grid.fill range (cell.map (·.stamped stamp)))
  | .copyRange source destination => some (sheet.copyEdit source destination)
  | _ => none

/-- While batches are open, an area that is written waits for them to be closed. -/
def awaiting (sheet : Sheet) (area : Range Int) : Sheet :=
  if sheet.openBatches = 0 then sheet
  else { sheet with pending := some ((sheet.pending.map (·.union area)).getD area) }

/-- What is told at once. -/
def prompt (sheet : Sheet) (change : Change Int) : List (Change Int) :=
  if sheet.openBatches = 0 then [change] else []

/-- The sheet after an edit. -/
def edited (sheet : Sheet) (edit : Edit) : Sheet :=
  awaiting { sheet with grid := edit.grid, writings := edit.writings } edit.area

/-- An edit stays in the area that it names, which is in the sheet. -/
structure Fits (sheet : Sheet) (edit : Edit) : Prop where
  inside : sheet.area.containsRange edit.area = true
  proper : edit.area.Proper
  edited : Grid.Edited edit.area sheet.grid edit.grid
  named : edit.change.area? = some edit.area

section accepted
variable {edit : Edit}

theorem editCell_ok {address : Address Number} {change : Address Int → Change Int} {put : Nat → Grid → Address Int → Grid}
    (accepted : sheet.editCell address change put = .ok edit) :
    ∃ cell, sheet.writable address = .ok cell ∧
      edit = ⟨.single cell, change cell, put sheet.writings sheet.grid cell, sheet.writings + 1⟩ := by
  unfold editCell at accepted
  cases passed : sheet.writable address with
  | error error => simp [passed, Except.map] at accepted
  | ok cell =>
    simp only [passed, Except.map, Except.ok.injEq] at accepted
    exact ⟨cell, rfl, accepted.symm⟩

theorem editRange_ok {range : Range Number} {put : Nat → Grid → Range Int → Grid}
    (accepted : sheet.editRange range put = .ok edit) :
    ∃ cells, sheet.writableRange range = .ok cells ∧
      edit = ⟨cells, .range cells, put sheet.writings sheet.grid cells, sheet.writings + 1⟩ := by
  unfold editRange at accepted
  cases passed : sheet.writableRange range with
  | error error => simp [passed, Except.map] at accepted
  | ok cells =>
    simp only [passed, Except.map, Except.ok.injEq] at accepted
    exact ⟨cells, rfl, accepted.symm⟩

theorem editCell_fits {address : Address Number} {change : Address Int → Change Int}
    {put : Nat → Grid → Address Int → Grid} (accepted : sheet.editCell address change put = .ok edit)
    (named : ∀ cell, (change cell).area? = some (.single cell))
    (edited : ∀ stamp grid cell, Grid.Edited (.single cell) grid (put stamp grid cell)) : sheet.Fits edit := by
  obtain ⟨cell, passed, rfl⟩ := editCell_ok accepted
  have within := (writable_ok_iff.mp passed).2.2
  exact ⟨Range.containsRange_single.trans within, Range.proper_single, edited _ _ _, named cell⟩

theorem editRange_fits {range : Range Number} {put : Nat → Grid → Range Int → Grid}
    (accepted : sheet.editRange range put = .ok edit)
    (edited : ∀ stamp grid cells, Grid.Edited cells grid (put stamp grid cells)) : sheet.Fits edit := by
  obtain ⟨cells, passed, rfl⟩ := editRange_ok accepted
  obtain ⟨_, _, proper, within⟩ := writableRange_ok_iff.mp passed
  exact ⟨within, proper, edited _ _ _, rfl⟩

end accepted

/-- The dimensions of a sheet are not greater than may be. -/
structure Bounded (sheet : Sheet) : Prop where
  rows : sheet.rows ≤ maxRows
  columns : sheet.columns ≤ maxColumns

theorem Bounded.isSmall (bounded : sheet.Bounded) {cells : Range Int} (within : sheet.area.containsRange cells = true)
    (proper : cells.Proper) : cells.IsSmall := by
  have rows := bounded.rows
  have columns := bounded.columns
  rw [Range.containsRange_iff] at within
  simp only [area, maxRows, maxColumns, Range.Proper, Range.IsSmall] at *
  omega

/-- What is known of a copy that was accepted: its source, and its target of the same shape. -/
structure Copies (sheet : Sheet) (source : Range Number) (destination : Address Number) (cells : Range Int)
    (edit : Edit) : Prop where
  named : source.toInt? = some cells
  arrived : (source.moved source.topLeft destination).toInt? = some edit.area
  proper : cells.Proper
  within : sheet.area.containsRange cells = true
  targetProper : edit.area.Proper
  targetWithin : sheet.area.containsRange edit.area = true
  height : edit.area.bottom - edit.area.top = cells.bottom - cells.top
  width : edit.area.right - edit.area.left = cells.right - cells.left
  does : edit = ⟨edit.area, .range edit.area, sheet.grid.copy cells edit.area.topLeft, sheet.writings⟩

theorem copyEdit_ok {source : Range Number} {destination : Address Number} {edit : Edit}
    (bounded : sheet.Bounded) (accepted : sheet.copyEdit source destination = .ok edit) :
    ∃ cells, sheet.Copies source destination cells edit := by
  obtain ⟨cells, first, rest⟩ := bind_eq_ok_iff.mp accepted
  obtain ⟨target, second, done⟩ := bind_eq_ok_iff.mp rest
  cases done
  obtain ⟨_, named, proper, within⟩ := writableRange_ok_iff.mp first
  obtain ⟨_, arrived, goal, inside⟩ := writableRange_ok_iff.mp second
  obtain ⟨height, width⟩ := Range.shape_of_moved named arrived (bounded.isSmall inside goal)
  exact ⟨cells, named, arrived, proper, within, goal, inside, height, width, rfl⟩

theorem copyEdit_fits {source : Range Number} {destination : Address Number} {edit : Edit} (bounded : sheet.Bounded)
    (accepted : sheet.copyEdit source destination = .ok edit) : sheet.Fits edit := by
  obtain ⟨cells, copies⟩ := copyEdit_ok bounded accepted
  have height := copies.height
  have width := copies.width
  rw [copies.does]
  refine ⟨copies.targetWithin, copies.targetProper, ?_, rfl⟩
  refine Grid.edited_copy (Int.le_refl _) (Int.le_refl _) ?_ ?_ <;> simp only [Range.topLeft] <;> omega

/-- Whatever is asked for, an edit that is accepted fits. -/
theorem edit?_fits {request : SheetRequest} {edit : Edit} (bounded : sheet.Bounded)
    (accepted : sheet.edit? request = some (.ok edit)) : sheet.Fits edit := by
  cases request with
  | setValue address value =>
    exact editCell_fits (Option.some.inj accepted) (fun _ => rfl) fun _ _ _ => .value .refl Range.contains_single _
  | setStyle address style =>
    exact editCell_fits (Option.some.inj accepted) (fun _ => rfl) fun _ _ _ => .style .refl Range.contains_single _
  | setFormat address format =>
    exact editCell_fits (Option.some.inj accepted) (fun _ => rfl) fun _ _ _ => .format .refl Range.contains_single _
  | setRichText address richText =>
    exact editCell_fits (Option.some.inj accepted) (fun _ => rfl) fun _ _ _ => .richText .refl Range.contains_single _
  | setCell address content =>
    exact editCell_fits (Option.some.inj accepted) (fun _ => rfl) fun _ _ _ =>
      Grid.Edited.refl.putCell Range.contains_single _
  | clearRange range =>
    exact editRange_fits (Option.some.inj accepted) fun _ _ _ =>
      Grid.edited_erase fun _ member => (Grid.mem_populatedIn.mp member).1
  | clearValues range =>
    exact editRange_fits (Option.some.inj accepted) fun _ _ _ =>
      Grid.edited_eraseValues fun _ member => (Grid.mem_populatedIn.mp member).1
  | clearStyles range =>
    exact editRange_fits (Option.some.inj accepted) fun _ _ _ =>
      Grid.edited_eraseStyles fun _ member => (Grid.mem_populatedIn.mp member).1
  | clearFormats range =>
    exact editRange_fits (Option.some.inj accepted) fun _ _ _ =>
      Grid.edited_eraseFormats fun _ member => (Grid.mem_populatedIn.mp member).1
  | fillWithCell range cell => exact editRange_fits (Option.some.inj accepted) fun _ _ _ => Grid.edited_fill _
  | copyRange source destination => exact copyEdit_fits bounded (Option.some.inj accepted)
  | _ => cases accepted

/-- An edit that is accepted writes the area that its request names, and tells this area. -/
theorem edit?_target {request : SheetRequest} {edit : Edit} (accepted : sheet.edit? request = some (.ok edit)) :
    request.target? = some edit.area ∧ edit.change.area? = some edit.area := by
  cases request with
  | setValue address | setStyle address | setFormat address | setRichText address | setCell address =>
    obtain ⟨cell, passed, rfl⟩ := editCell_ok (Option.some.inj accepted)
    have named := (writable_ok_iff.mp passed).2.1
    exact ⟨congrArg (Option.map Range.single) named, rfl⟩
  | clearRange range | clearValues range | clearStyles range | clearFormats range | fillWithCell range =>
    obtain ⟨cells, passed, rfl⟩ := editRange_ok (Option.some.inj accepted)
    exact ⟨(writableRange_ok_iff.mp passed).2.1, rfl⟩
  | copyRange source destination =>
    obtain ⟨cells, _, rest⟩ := bind_eq_ok_iff.mp (Option.some.inj accepted)
    obtain ⟨target, passed, done⟩ := bind_eq_ok_iff.mp rest
    cases done
    exact ⟨(writableRange_ok_iff.mp passed).2.1, rfl⟩
  | _ => cases accepted

/-- The edit that puts one cell of a fill. -/
def putEdit (sheet : Sheet) (address : Address Int) (cell : Option Cell) : Edit where
  area := .single address
  change := .range (.single address)
  grid := sheet.grid.putCell address (cell.map (·.stamped sheet.writings))
  writings := sheet.writings + 1

theorem putEdit_fits {address : Address Int} (within : sheet.area.contains address = true) (cell : Option Cell) :
    sheet.Fits (sheet.putEdit address cell) :=
  ⟨Range.containsRange_single.trans within, Range.proper_single,
    Grid.Edited.refl.putCell Range.contains_single _, rfl⟩

end Sheet

namespace Session
variable {publish : Publisher} {close : Session Unit} {world : World (Change Int) SheetRequest Sheet}

@[simp] theorem outcome_sheet : sheet.outcome world = (.ok world.state, world) := rfl

@[simp] theorem outcome_modifySheet (f : Sheet → Sheet) :
    (modifySheet f).outcome world = (.ok (), { world with state := f world.state }) := rfl

@[simp] theorem outcome_check {α : Type} (f : Sheet → Except SheetError α) :
    (check f).outcome world = (f world.state, world) := rfl

/-- A check that passes is followed by the rest. -/
theorem outcome_check_ok {α β : Type} {f : Sheet → Except SheetError α} {rest : α → Session β} {value : α}
    (passed : f world.state = .ok value) : (check f >>= rest).outcome world = (rest value).outcome world :=
  Run.outcome_bind_ok ((outcome_check f).trans (by rw [passed]))

/-- A check that fails is the end. -/
theorem outcome_check_error {α β : Type} {f : Sheet → Except SheetError α} {rest : α → Session β} {error : SheetError}
    (failed : f world.state = .error error) : (check f >>= rest).outcome world = (.error error, world) :=
  Run.outcome_bind_error ((outcome_check f).trans (by rw [failed]))

theorem outcome_notify (area : Range Int) (change : Change Int) :
    (notify publish area change).outcome world =
      ((world.state.prompt change).forM publish).outcome { world with state := world.state.awaiting area } := by
  unfold notify
  rw [Run.outcome_bind_ok outcome_sheet]
  by_cases closed : world.state.openBatches = 0
  · simp only [closed, ↓reduceIte, Sheet.prompt, Sheet.awaiting]
    exact (Run.outcome_bind_unit _).symm
  · simp only [closed, ↓reduceIte, Sheet.prompt, Sheet.awaiting]
    rfl

/-- Makes an edit, unless it is refused, and tells of it, at once or later. -/
def settle (publish : Publisher) (result : Except SheetError Edit) : Session Unit := do
  let edit ← Run.lift result
  modifySheet (·.edited edit)
  ((← sheet).prompt edit.change).forM publish

theorem outcome_settle_error (error : SheetError) : (settle publish (.error error)).outcome world = (.error error, world) :=
  rfl

theorem outcome_settle_ok (edit : Edit) :
    (settle publish (.ok edit)).outcome world =
      ((world.state.prompt edit.change).forM publish).outcome { world with state := world.state.edited edit } := by
  unfold settle
  rw [Run.outcome_bind_ok (Run.outcome_lift _), Run.outcome_bind_ok (outcome_modifySheet _),
    Run.outcome_bind_ok outcome_sheet]
  congr 2
  unfold Sheet.prompt Sheet.edited Sheet.awaiting
  by_cases closed : world.state.openBatches = 0 <;> simp [closed]

private theorem outcome_editCell (address : Address Number) (change : Address Int → Change Int)
    (put : Nat → Grid → Address Int → Grid) :
    (editCell publish address change put).outcome world =
      (settle publish (world.state.editCell address change put)).outcome world := by
  unfold editCell Sheet.editCell
  cases passed : world.state.writable address with
  | error error => exact outcome_check_error passed
  | ok cell =>
    rw [outcome_check_ok passed, Run.outcome_bind_ok (outcome_modifySheet _), outcome_notify, Except.map,
      outcome_settle_ok]
    rfl

private theorem outcome_editRange (range : Range Number) (put : Nat → Grid → Range Int → Grid) :
    (editRange publish range put).outcome world =
      (settle publish (world.state.editRange range put)).outcome world := by
  unfold editRange Sheet.editRange
  cases passed : world.state.writableRange range with
  | error error => exact outcome_check_error passed
  | ok cells =>
    rw [outcome_check_ok passed, Run.outcome_bind_ok (outcome_modifySheet _), outcome_notify, Except.map,
      outcome_settle_ok]
    rfl

private theorem outcome_copyRange (source : Range Number) (destination : Address Number) :
    (copyRange publish source destination).outcome world =
      (settle publish (world.state.copyEdit source destination)).outcome world := by
  unfold copyRange Sheet.copyEdit
  cases first : world.state.writableRange source with
  | error error => exact outcome_check_error first
  | ok cells =>
    rw [outcome_check_ok first]
    cases second : world.state.writableRange (source.moved source.topLeft destination) with
    | error error => exact outcome_check_error second
    | ok target =>
      rw [outcome_check_ok second, modifyGrid, Run.outcome_bind_ok (outcome_modifySheet _), outcome_notify]
      exact (outcome_settle_ok ⟨target, .range target, _, world.state.writings⟩).symm

/-- A request for an edit settles it. -/
theorem outcome_perform_edit {request : SheetRequest} {result : Except SheetError Edit}
    (asked : world.state.edit? request = some result) :
    (perform publish close request).outcome world = (settle publish result).outcome world := by
  cases request with
  | setValue | setStyle | setFormat | setRichText | setCell =>
    cases asked
    exact outcome_editCell _ _ _
  | clearRange | clearValues | clearStyles | clearFormats | fillWithCell =>
    cases asked
    exact outcome_editRange _ _
  | copyRange source destination =>
    cases asked
    exact outcome_copyRange _ _
  | _ => cases asked

/-- One cell of a fill, which may not have been made. -/
def put (publish : Publisher) (made : Address Int × Except SheetError (Option Cell)) : Session Unit := do
  let cell ← Run.lift made.2
  modifySheet (·.write fun stamp grid => grid.putCell made.1 (cell.map (·.stamped stamp)))
  notify publish (.single made.1) (.range (.single made.1))

theorem writeAll_eq (cells : List (Address Int × Except SheetError (Option Cell))) :
    writeAll publish cells = batch publish (cells.forM (put publish)) := rfl

theorem outcome_put (address : Address Int) (made : Except SheetError (Option Cell)) :
    (put publish (address, made)).outcome world =
      (settle publish (made.map (world.state.putEdit address))).outcome world := by
  unfold put
  cases made with
  | error error => rfl
  | ok cell =>
    rw [Run.outcome_bind_ok (Run.outcome_lift _), Run.outcome_bind_ok (outcome_modifySheet _), outcome_notify, Except.map,
      outcome_settle_ok]
    rfl

end Session
end Spreadsheet
