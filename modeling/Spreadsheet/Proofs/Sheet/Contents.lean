import Spreadsheet.Proofs.Sheet.Batching
import Spreadsheet.Proofs.Sheet.Consistency

/-! A sheet stands for a plain grid: what every cell holds. Each request to write cells is one change of this grid,
told here without the layers, and what can be read of a sheet depends on this grid alone. -/
namespace Spreadsheet

/-- What every cell holds, stamps apart. -/
abbrev Contents := Address Int → Holding

def Sheet.contents (sheet : Sheet) : Contents := fun cell => (sheet.grid.holding cell).plain

namespace Contents

/-- Changes what the cells of a range hold. -/
def update (contents : Contents) (range : Range Int) (change : Holding → Holding) : Contents := fun cell =>
  if range.contains cell = true then change (contents cell) else contents cell

/-- Copies a range to where it starts at a cell; what is copied is what was there before. -/
def copy (contents : Contents) (source : Range Int) (target : Address Int) : Contents := fun cell =>
  if source.contains (Grid.copiedFrom source target cell) = true then
    (contents (Grid.copiedFrom source target cell)).kept
  else contents cell

end Contents

/-- A content as it is given, without a stamp. -/
def Content.given {α : Type} (value : Option α) : Option (Content α) := value.map (⟨·, none⟩)

/-- A change of the plain grid, with the ranges that it names. -/
structure Writing where
  named : List (Range Int)
  update : Contents → Contents

namespace Writing

/-- A change of one cell. -/
def onCell (address : Address Number) (change : Holding → Holding) : Option Writing :=
  address.toInt?.map fun cell => ⟨[.single cell], (·.update (.single cell) change)⟩

/-- A change of every cell of a range. -/
def onRange (range : Range Number) (change : Holding → Holding) : Option Writing :=
  range.toInt?.map fun cells => ⟨[cells], (·.update cells change)⟩

/-- The sheet may be written, and every range that is named is a range of its cells. -/
def Accepted (writing : Writing) (sheet : Sheet) : Prop :=
  sheet.isDisposed = false ∧ ∀ range ∈ writing.named, range.Proper ∧ sheet.area.containsRange range = true

end Writing

open Content Writing in
/-- What a request to write cells does to the plain grid, where its arguments are whole numbers. A fill with a
generator is left out, as it may do anything. -/
def SheetRequest.writing? : SheetRequest → Option Writing
  | .setValue address value => onCell address fun holding => { holding with value := given value }
  | .setStyle address style =>
    onCell address fun holding => { holding with style := Holding.withoutNull (given style) }
  | .setFormat address format => onCell address fun holding => { holding with format := given format }
  | .setRichText address richText =>
    onCell address fun holding => { holding with richText := Holding.withoutNull (given richText) }
  | .setCell address cell => onCell address fun _ => (Holding.ofCell (cell.getD {})).plain
  | .clearRange range => onRange range fun _ => {}
  | .clearValues range => onRange range .withoutContent
  | .clearStyles range => onRange range .withoutStyle
  | .clearFormats range => onRange range .withoutFormat
  | .fillWithCell range cell => onRange range fun _ => (Holding.ofCell (cell.getD {})).plain
  | .copyRange source destination => do
    let cells ← source.toInt?
    let target ← destination.toInt?
    return ⟨[cells, cells.startingAt target], (·.copy cells target)⟩
  | .fillRange source target none => do
    let source ← source.toInt?
    let cells ← target.toInt?
    return ⟨[cells], fun contents =>
      if (contents source).isOccupied = true then
        contents.update cells fun _ => (contents source).kept.withoutRichText
      else contents⟩
  | .clear => some ⟨[], fun _ _ => {}⟩
  | _ => none

namespace Holding
variable {holding : Holding}

private theorem plain_withoutNull (content : Option (Content Payload)) :
    (withoutNull content).map Content.plain = withoutNull (content.map Content.plain) := by
  cases content with
  | none => rfl
  | some content =>
    by_cases null : content.value.isNull = true <;> simp [withoutNull, Option.filter, Content.plain, null]

private theorem plain_given {α : Type} (value : Option α) (stamp : Nat) :
    (value.map (Content.mk · (some stamp))).map Content.plain = Content.given value := by
  cases value <;> rfl

private theorem content?_stamped {α : Type} (aspect : Aspect α) (stamp : Nat) :
    (aspect.map (·.stamped stamp)).content?.map Content.plain = aspect.content?.map Content.plain := by
  cases aspect <;> rfl

/-- Stamps make no difference to the plain grid. -/
theorem plain_ofCell_stamped (cell : Cell) (stamp : Nat) : (ofCell (cell.stamped stamp)).plain = (ofCell cell).plain := by
  simp only [ofCell, plain, Cell.stamped, plain_withoutNull, content?_stamped]

theorem plain_ofCell_getD (cell : Option Cell) (stamp : Nat) :
    (ofCell ((cell.map (·.stamped stamp)).getD {})).plain = (ofCell (cell.getD {})).plain := by
  cases cell with
  | none => rfl
  | some cell => exact plain_ofCell_stamped cell stamp

private theorem filter_plain (content : Option (Content Payload)) (wanted : Payload → Bool) :
    (content.filter fun content => wanted content.value).map Content.plain =
      (content.map Content.plain).filter fun content => wanted content.value := by
  cases content with
  | none => rfl
  | some content => by_cases kept : wanted content.value = true <;> simp [Option.filter, Content.plain, kept]

theorem plain_kept : holding.kept.plain = holding.plain.kept := by
  simp only [kept, plain, filter_plain _ fun payload => !payload.isVoid]

theorem isOccupied_plain : holding.plain.isOccupied = holding.isOccupied := by
  simp [isOccupied, plain]

end Holding

namespace Sheet
variable {sheet : Sheet} {rows columns : Nat} {other : Address Int}

theorem update_single (contents : Contents) (cell : Address Int) (change : Holding → Holding) :
    contents.update (.single cell) change other = if other = cell then change (contents other) else contents other := by
  have same : (Range.single cell).contains other = true ↔ other = cell :=
    ⟨Range.eq_of_contains_single, fun same => same ▸ Range.contains_single⟩
  simp only [Contents.update, same]

/-- An edit does what a writing says: it is accepted exactly when the writing is, and then changes the plain grid so. -/
def Realizes (sheet : Sheet) (result : Except SheetError Edit) (writing : Writing) : Prop :=
  (writing.Accepted sheet → ∃ edit, result = .ok edit ∧
      (fun cell => (edit.grid.holding cell).plain) = writing.update sheet.contents) ∧
    (¬writing.Accepted sheet → ∃ error, result = .error error)

theorem realizes_editCell {address : Address Number} {told : Address Int → Change Int}
    {put : Nat → Grid → Address Int → Grid} {change : Holding → Holding} {writing : Writing}
    (asked : Writing.onCell address change = some writing)
    (effect : ∀ stamp grid cell other, ((put stamp grid cell).holding other).plain =
      if other = cell then change (grid.holding other).plain else (grid.holding other).plain) :
    sheet.Realizes (sheet.editCell address told put) writing := by
  obtain ⟨cell, named, rfl⟩ := Option.map_eq_some_iff.mp asked
  have accepted : Writing.Accepted ⟨[.single cell], (·.update (.single cell) change)⟩ sheet ↔
      sheet.writable address = .ok cell := by
    rw [writable_ok_iff, Writing.Accepted]
    simp [named, Range.containsRange_single, Range.proper_single]
  unfold Realizes editCell
  rw [accepted]
  constructor
  · intro passed
    rw [passed]
    exact ⟨_, rfl, funext fun other => (effect _ _ _ other).trans (update_single sheet.contents cell change).symm⟩
  · intro failed
    cases passed : sheet.writable address with
    | error error => exact ⟨error, rfl⟩
    | ok found =>
      obtain ⟨_, same, _⟩ := writable_ok_iff.mp passed
      rw [named, Option.some.injEq] at same
      exact absurd (same ▸ passed) failed

theorem realizes_editRange {range : Range Number} {put : Nat → Grid → Range Int → Grid} {change : Holding → Holding}
    {writing : Writing} (asked : Writing.onRange range change = some writing)
    (effect : ∀ stamp cells other, ((put stamp sheet.grid cells).holding other).plain =
      if cells.contains other = true then change (sheet.contents other) else sheet.contents other) :
    sheet.Realizes (sheet.editRange range put) writing := by
  obtain ⟨cells, named, rfl⟩ := Option.map_eq_some_iff.mp asked
  have accepted : Writing.Accepted ⟨[cells], (·.update cells change)⟩ sheet ↔
      sheet.writableRange range = .ok cells := by
    rw [writableRange_ok_iff, Writing.Accepted]
    simp [named]
  unfold Realizes editRange
  rw [accepted]
  constructor
  · intro passed
    rw [passed]
    exact ⟨_, rfl, funext fun other => effect _ _ _⟩
  · intro failed
    cases passed : sheet.writableRange range with
    | error error => exact ⟨error, rfl⟩
    | ok found =>
      obtain ⟨_, same, _⟩ := writableRange_ok_iff.mp passed
      rw [named, Option.some.injEq] at same
      exact absurd (same ▸ passed) failed

theorem Sound.holding_copy_plain (sound : sheet.Sound rows columns) (source : Range Int) (target : Address Int) :
    (fun cell => ((sheet.grid.copy source target).holding cell).plain) = sheet.contents.copy source target := by
  funext cell
  rw [sound.grid.holding_copy]
  unfold Contents.copy contents
  split
  · exact Holding.plain_kept
  · rfl

theorem Sound.realizes_copyEdit {source : Range Number} {destination : Address Number} {writing : Writing}
    (sound : sheet.Sound rows columns) (asked : (SheetRequest.copyRange source destination).writing? = some writing) :
    sheet.Realizes (sheet.copyEdit source destination) writing := by
  obtain ⟨cells, named, rest⟩ := Option.bind_eq_some_iff.mp asked
  obtain ⟨target, goal, same⟩ := Option.bind_eq_some_iff.mp rest
  cases same
  constructor
  · rintro ⟨live, inside⟩
    obtain ⟨proper, within⟩ := inside cells (by simp)
    obtain ⟨room, space⟩ := inside (cells.startingAt target) (by simp)
    have arrived := Range.toInt?_moved named goal (sound.bounded.isSmall within proper)
      (sound.bounded.isSmall space room)
    have first := writableRange_ok_iff.mpr ⟨live, named, proper, within⟩
    have second := writableRange_ok_iff.mpr ⟨live, arrived, room, space⟩
    refine ⟨⟨cells.startingAt target, .range (cells.startingAt target), sheet.grid.copy cells target, sheet.writings⟩,
      ?_, sound.holding_copy_plain cells target⟩
    exact bind_eq_ok_iff.mpr ⟨_, first, bind_eq_ok_iff.mpr ⟨_, second, rfl⟩⟩
  · intro refused
    cases settled : sheet.copyEdit source destination with
    | error error => exact ⟨error, rfl⟩
    | ok edit =>
      obtain ⟨found, copies⟩ := copyEdit_ok sound.bounded settled
      have again := copies.named
      rw [named, Option.some.injEq] at again
      subst again
      have place := Range.eq_startingAt_of_moved named goal copies.arrived
        (sound.bounded.isSmall copies.within copies.proper) (sound.bounded.isSmall copies.targetWithin copies.targetProper)
      obtain ⟨_, first, _⟩ := bind_eq_ok_iff.mp settled
      refine absurd ⟨(writableRange_ok_iff.mp first).1, ?_⟩ refused
      intro range member
      rcases List.mem_cons.mp member with rfl | last
      · exact ⟨copies.proper, copies.within⟩
      · rw [List.mem_singleton.mp last, ← place]
        exact ⟨copies.targetProper, copies.targetWithin⟩

/-- Every request for an edit is the change of the plain grid that its writing says. -/
theorem Sound.realizes_edit {request : SheetRequest} {result : Except SheetError Edit} {writing : Writing}
    (sound : sheet.Sound rows columns) (known : sheet.edit? request = some result)
    (asked : request.writing? = some writing) : sheet.Realizes result writing := by
  cases request with
  | setValue address value =>
    cases known
    apply realizes_editCell asked
    intro stamp grid cell other
    rw [Grid.holding_putValue]
    split <;> simp only [Holding.plain, Holding.plain_given]
  | setStyle address style =>
    cases known
    apply realizes_editCell asked
    intro stamp grid cell other
    rw [Grid.holding_putStyle]
    split <;> simp only [Holding.plain, Holding.plain_withoutNull, Holding.plain_given]
  | setFormat address format =>
    cases known
    apply realizes_editCell asked
    intro stamp grid cell other
    rw [Grid.holding_putFormat]
    split <;> simp only [Holding.plain, Holding.plain_given]
  | setRichText address richText =>
    cases known
    apply realizes_editCell asked
    intro stamp grid cell other
    rw [Grid.holding_putRichText]
    split <;> simp only [Holding.plain, Holding.plain_withoutNull, Holding.plain_given]
  | setCell address cell =>
    cases known
    apply realizes_editCell asked
    intro stamp grid cell other
    rw [Grid.holding_putCell]
    split
    · exact Holding.plain_ofCell_getD _ stamp
    · rfl
  | clearRange range =>
    cases known
    apply realizes_editRange asked
    intro stamp cells other
    rw [sound.grid.holding_erase]
    split <;> rfl
  | clearValues range =>
    cases known
    apply realizes_editRange asked
    intro stamp cells other
    rw [sound.grid.holding_eraseValues]
    split <;> rfl
  | clearStyles range =>
    cases known
    apply realizes_editRange asked
    intro stamp cells other
    rw [sound.grid.holding_eraseStyles]
    split <;> rfl
  | clearFormats range =>
    cases known
    apply realizes_editRange asked
    intro stamp cells other
    rw [sound.grid.holding_eraseFormats]
    split <;> rfl
  | fillWithCell range cell =>
    cases known
    apply realizes_editRange asked
    intro stamp cells other
    rw [Grid.holding_fill]
    split
    · exact Holding.plain_ofCell_getD _ stamp
    · rfl
  | copyRange source destination =>
    cases known
    exact sound.realizes_copyEdit asked
  | _ => cases known

theorem contents_edited (edit : Edit) :
    (sheet.edited edit).contents = fun cell => (edit.grid.holding cell).plain := by
  unfold contents
  rw [grid_edited]

/-- Cells that are all made are put, and each address holds what has been made for it. -/
theorem putAll_eq (sheet : Sheet) {cells : List (Address Int × Except SheetError (Option Cell))}
    (made : Address Int → Option Cell) (agree : ∀ pair ∈ cells, pair.2 = .ok (made pair.1)) :
    ∃ after, sheet.putAll cells = (.ok (), after) ∧
      after.contents = fun other =>
        if other ∈ cells.map Prod.fst then (Holding.ofCell ((made other).getD {})).plain else sheet.contents other := by
  induction cells generalizing sheet with
  | nil => exact ⟨sheet, rfl, by simp⟩
  | cons first rest ih =>
    obtain ⟨address, result⟩ := first
    obtain rfl : result = .ok (made address) := agree _ List.mem_cons_self
    obtain ⟨after, done, contents⟩ := ih (sheet.edited (sheet.putEdit address (made address)))
      fun pair member => agree pair (List.mem_cons_of_mem _ member)
    refine ⟨after, done, ?_⟩
    rw [contents, contents_edited]
    funext other
    simp only [putEdit, Grid.holding_putCell, List.map_cons, List.mem_cons]
    by_cases later : other ∈ rest.map Prod.fst
    · simp only [later, or_true, ↓reduceIte]
    · by_cases here : other = address
      · simp only [here, true_or, ↓reduceIte, Holding.plain_ofCell_getD, ite_self]
      · simp only [here, later, or_self, ↓reduceIte, Sheet.contents]

end Sheet

namespace Session
open Run
variable {publish : Publisher} {close : Session Unit} {world : SheetWorld} {rows columns : Nat}

/-- A run does what a writing says: if the writing is accepted, the plain grid is changed so before anything is told,
and else nothing happens at all. -/
def Performs (publish : Publisher) (run : Session Unit) (writing : Writing) (world : SheetWorld) : Prop :=
  (writing.Accepted world.state → ∃ (events : List (Change Int)) (after : Sheet),
      after.contents = writing.update world.state.contents ∧
      run.outcome world = (events.forM publish).outcome { world with state := after }) ∧
    (¬writing.Accepted world.state → ∃ error, run.outcome world = (.error error, world))

theorem performs_edit {request : SheetRequest} {result : Except SheetError Edit} {writing : Writing}
    (sound : world.state.Sound rows columns) (known : world.state.edit? request = some result)
    (asked : request.writing? = some writing) : Performs publish (perform publish close request) writing world := by
  obtain ⟨done, refused⟩ := sound.realizes_edit known asked
  refine ⟨?_, ?_⟩
  · intro accepted
    obtain ⟨edit, rfl, contents⟩ := done accepted
    exact ⟨_, _, (Sheet.contents_edited edit).trans contents, (outcome_perform_edit known).trans (outcome_settle_ok edit)⟩
  · intro rejected
    obtain ⟨error, rfl⟩ := refused rejected
    exact ⟨error, (outcome_perform_edit known).trans (outcome_settle_error error)⟩

/-- A fill without a generator reads its source once, and then puts it into every cell of the target. -/
theorem performs_fillRange {source : Address Number} {target : Range Number} {writing : Writing}
    (sound : world.state.Sound rows columns)
    (asked : (SheetRequest.fillRange source target none).writing? = some writing) :
    Performs publish (fillRange publish source target none) writing world := by
  obtain ⟨cell, origin, rest⟩ := Option.bind_eq_some_iff.mp asked
  obtain ⟨cells, named, same⟩ := Option.bind_eq_some_iff.mp rest
  cases same
  have read : world.state.source? source = world.state.grid.cell? cell := by simp [Sheet.source?, Sheet.read, origin]
  constructor
  · rintro ⟨live, inside⟩
    obtain ⟨proper, within⟩ := inside cells (by simp)
    rw [outcome_fillRange (Sheet.writableRange_ok_iff.mpr ⟨live, named, proper, within⟩)]
    unfold Sheet.filling?
    rw [read, Grid.cell?_eq]
    by_cases populated : world.state.grid.populated.contains cell = true
    · have occupied : (world.state.contents cell).isOccupied = true := by
        rw [Sheet.contents, Holding.isOccupied_plain]
        exact (sound.grid.mem_populated cell).mp populated
      have agree : ∀ pair ∈ cells.cells.map (·, (.ok (some (world.state.grid.holding cell).toCell.withoutRichText) :
          Except SheetError (Option Cell))),
          pair.2 = .ok (some (world.state.grid.holding cell).toCell.withoutRichText) := by simp
      obtain ⟨after, done, contents⟩ := world.state.batchOpened.putAll_eq (fun _ => _) agree
      refine ⟨after.due, after.batchClosed, ?_, ?_⟩
      · rw [show after.batchClosed.contents = after.contents from rfl, contents]
        simp only [occupied, ↓reduceIte, List.map_map, Function.comp_def, List.map_id', Range.mem_cells,
          Option.getD_some, Holding.ofCell_withoutRichText]
        rw [show (world.state.contents cell).kept = (world.state.grid.holding cell).kept.plain from
          Holding.plain_kept.symm]
        rfl
      · rw [if_pos populated]
        exact (outcome_writeAll _ live done).trans (outcome_bind_unit _)
    · have vacant : (world.state.contents cell).isOccupied = false := by
        rw [Sheet.contents, Holding.isOccupied_plain]
        simpa [sound.grid.mem_populated] using populated
      refine ⟨[], world.state, by simp [vacant], ?_⟩
      rw [if_neg populated]
      rfl
  · intro refused
    cases passed : world.state.writableRange target with
    | error error => exact ⟨error, outcome_check_error passed⟩
    | ok found =>
      obtain ⟨live, again, proper, within⟩ := Sheet.writableRange_ok_iff.mp passed
      rw [named, Option.some.injEq] at again
      exact absurd ⟨live, by simp [again, proper, within]⟩ refused

theorem performs_clear {writing : Writing} (asked : SheetRequest.clear.writing? = some writing) :
    Performs publish (clear publish) writing world := by
  cases asked
  constructor
  · rintro ⟨live, _⟩
    refine ⟨[.reset], { world.state with grid := {}, merges := {} }, rfl, ?_⟩
    unfold clear
    rw [outcome_check_ok (Sheet.requireLive_ok live), outcome_bind_ok (outcome_modifySheet _)]
    exact (outcome_bind_unit _).symm
  · intro refused
    cases passed : world.state.requireLive with
    | error error => exact ⟨error, outcome_check_error passed⟩
    | ok answer => exact absurd ⟨Sheet.requireLive_ok_iff.mp passed, by simp⟩ refused

/-- Every request to write cells does what its writing says. -/
theorem performs_writing {request : SheetRequest} {writing : Writing} (sound : world.state.Sound rows columns)
    (asked : request.writing? = some writing) : Performs publish (perform publish close request) writing world := by
  cases known : world.state.edit? request with
  | some result => exact performs_edit sound known asked
  | none =>
    cases request with
    | fillRange source target generator =>
      cases generator with
      | none => exact performs_fillRange sound asked
      | some generator => cases asked
    | clear => exact performs_clear asked
    | setValue | setStyle | setFormat | setRichText | setCell | copyRange => cases known
    | clearRange | clearValues | clearStyles | clearFormats | fillWithCell => cases known
    | _ => cases asked

end Session

end Spreadsheet
