import Spreadsheet.Proofs.Coordinate.Keys
import Spreadsheet.Proofs.Merge.Rectangles
import Spreadsheet.Proofs.Number.Order
import Spreadsheet.Proofs.Sheet.Regions
import Spreadsheet.Settings

/-! Whatever is asked of a sheet, and whatever its subscribers do meanwhile, its parts stay consistent: the record of
populated cells follows the four layers, the last row and column are exact, and the regions are apart. -/
namespace Spreadsheet

namespace Dimensions

/-- A dimension that was read is not greater than may be. -/
theorem read_le {greatest dimension : Nat} {given : Option Payload} (small : greatest < 2 ^ 53)
    (accepted : read greatest given = .ok dimension) : dimension ≤ greatest := by
  cases given with
  | none =>
    cases accepted
    exact Nat.le_refl _
  | some payload =>
    cases payload with
    | number value =>
      simp only [read] at accepted
      split at accepted
      · cases accepted
      · split at accepted
        · rename_i none
          cases accepted
          simp only [issues, List.append_eq_nil_iff] at none
          obtain ⟨⟨whole, _⟩, above⟩ := none
          cases named : value.toInt? with
          | none => simp [named] at whole
          | some k =>
            have bound : ¬(Number.ofNat greatest < value) := by simpa using above
            rw [Number.lt_iff (Number.toInt?_ofNat small) named] at bound
            simp only [Option.getD_some]
            omega
        · cases accepted
    | _ => cases accepted

theorem load_le {options : Payload} {rows columns : Nat} (accepted : load options = .ok (rows, columns)) :
    rows ≤ maxRows ∧ columns ≤ maxColumns := by
  unfold load at accepted
  split at accepted
  · simp only at accepted
    split at accepted
    · rename_i readRows readColumns
      cases accepted
      exact ⟨read_le (by decide) readRows, read_le (by decide) readColumns⟩
    · cases accepted
  · cases accepted

end Dimensions

namespace Sheet
variable {sheet : Sheet} {rows columns : Nat}

/-- The parts of a sheet agree with each other. -/
structure Consistent (sheet : Sheet) : Prop where
  mem_populated : ∀ cell, cell ∈ sheet.grid.populated ↔
    cell ∈ sheet.grid.values ∨ cell ∈ sheet.grid.styles ∨ cell ∈ sheet.grid.formats ∨ cell ∈ sheet.grid.richTexts
  ofKey_key : ∀ cell ∈ sheet.grid.populated, Address.ofKey cell.toNumber.key = cell.toNumber
  style_ne_null : ∀ (cell : Address Int) (style : Content Payload),
    sheet.grid.styles[cell]? = some style → style.value ≠ .null
  richText_ne_null : ∀ (cell : Address Int) (richText : Content Payload),
    sheet.grid.richTexts[cell]? = some richText → richText.value ≠ .null
  lastRow : CellSet.IsLast sheet.grid.populated Address.row sheet.grid.lastRow
  lastColumn : CellSet.IsLast sheet.grid.populated Address.column sheet.grid.lastColumn
  populated_inside : ∀ cell ∈ sheet.grid.populated,
    (0 ≤ cell.row ∧ cell.row < sheet.rows) ∧ 0 ≤ cell.column ∧ cell.column < sheet.columns
  region_inside : ∀ region ∈ sheet.regions, ∀ cell, region.cells.contains cell = true →
    (0 ≤ cell.row ∧ cell.row < sheet.rows) ∧ 0 ≤ cell.column ∧ cell.column < sheet.columns
  region_large : ∀ region ∈ sheet.regions, ∃ a b, a ≠ b ∧
    region.cells.contains a = true ∧ region.cells.contains b = true
  regions_apart : sheet.regions.Pairwise fun a b =>
    ∀ cell, ¬(a.cells.contains cell = true ∧ b.cells.contains cell = true)
  covering : ∀ cell region, sheet.merges.covering[cell]? = some region ↔
    region ∈ sheet.regions ∧ region.cells.contains cell = true

private theorem inside_of_contains {cell : Address Int} (within : sheet.area.contains cell = true) :
    (0 ≤ cell.row ∧ cell.row < sheet.rows) ∧ 0 ≤ cell.column ∧ cell.column < sheet.columns := by
  rw [Range.contains_iff] at within
  simp only [area] at within
  omega

private theorem isTellable_of_contains (bounded : sheet.Bounded) {cell : Address Int}
    (within : sheet.area.contains cell = true) : cell.IsTellable := by
  have rows := bounded.rows
  have columns := bounded.columns
  rw [Range.contains_iff] at within
  simp only [area, maxRows, maxColumns, Address.IsTellable] at *
  omega

theorem Sound.consistent (sound : sheet.Sound rows columns) : sheet.Consistent := by
  have grid := sound.area_eq ▸ sound.grid
  have merges := sound.area_eq ▸ sound.merges
  refine ⟨?_, ?_, ?_, ?_, grid.lastRow,
    grid.lastColumn, fun cell member => inside_of_contains (grid.inside cell member), ?_,
    fun region member => (Range.isLarge_iff (merges.proper region member)).mpr (merges.large region member),
    merges.disjoint, merges.covering_iff⟩
  · intro cell
    rw [grid.mem_populated, ← Grid.isOccupied_eq]
    simp [Grid.isOccupied, or_assoc]
  · intro cell member
    exact Address.ofKey_key (isTellable_of_contains sound.bounded (grid.inside cell member))
  · intro cell style held null
    have none := (grid.noNull cell).1 style held
    simp [null, Payload.isNull] at none
  · intro cell richText held null
    have none := (grid.noNull cell).2 richText held
    simp [null, Payload.isNull] at none
  · intro region member cell within
    exact inside_of_contains (Range.contains_trans (merges.inside region member) within)

/-- A sheet is sound once its first contents are written. -/
theorem sound_create {equality : CellEquality} {cells : List (Address Number × Cell)}
    (small : rows ≤ maxRows ∧ columns ≤ maxColumns) (made : create rows columns equality cells = .ok sheet) :
    sheet.Sound rows columns := by
  have empty : Sound rows columns { rows, columns, equality } :=
    ⟨rfl, rfl, ⟨small.1, small.2⟩, Grid.sound_empty _, MergeRegistry.sound_empty _, by simp⟩
  unfold create at made
  generalize ({ rows, columns, equality } : Sheet) = start at empty made
  induction cells generalizing start with
  | nil =>
    cases made
    exact empty
  | cons first rest ih =>
    rw [List.foldlM_cons] at made
    obtain ⟨next, written, remaining⟩ := bind_eq_ok_iff.mp made
    obtain ⟨address, passed, done⟩ := bind_eq_ok_iff.mp written
    cases done
    have within := (inside_ok_iff.mp passed).2
    refine ih _ ?_ remaining
    have edited : Grid.Edited start.area start.grid
        (start.grid.putCell address (some (first.2.stamped start.writings))) := Grid.Edited.refl.putCell within _
    have grid := empty.grid.edited ⟨Int.le_refl 0, Int.le_refl 0⟩ (empty.area_eq ▸ Range.containsRange_refl _) edited
    exact empty.of_parts rfl rfl grid empty.merges empty.waiting

end Sheet

namespace SheetWorld
variable {good : Sheet → Prop} {publish : Publisher} {close : Session Unit} {rows columns : Nat} {world : SheetWorld}

/-- A property of the sheet as it is and as it was whenever a subscriber was called with an event. -/
def Throughout (good : Sheet → Prop) (world : SheetWorld) : Prop :=
  good world.state ∧ ∀ delivery, .delivered delivery ∈ world.trace → good delivery.state

theorem inert_throughout : World.Inert (fun _ => True) (Throughout good) where
  subscribers world holds subscription member := trivial
  feed world feed holds _ _ := holds
  record world occurrence holds shown _ := by
    refine ⟨holds.1, ?_⟩
    intro delivery member
    rcases List.mem_cons.mp member with same | earlier
    · rw [shown delivery same.symm]
      exact holds.1
    · exact holds.2 delivery earlier

theorem throughout_ended (holds : Throughout good world) : Throughout good world.ended :=
  ⟨holds.1, fun delivery member => holds.2 delivery (by simpa [World.ended] using member)⟩

/-- Acts keep a sheet sound throughout, if whatever is done when they are told does. -/
theorem upheld_throughout (told : ∀ event, Run.Keeps (Throughout (Sheet.Sound rows columns)) (publish event)) :
    Upheld rows columns publish (Throughout (Sheet.Sound rows columns)) where
  sound _ holds := holds.1
  act world events after holds act :=
    Run.keeps_forM (fun event _ => told event) _ ⟨holds.1.act act, holds.2⟩
  withdraw world moving holds _ := by
    refine Run.keeps_forM (fun region _ => Session.keeps_sheet ?_) world holds
    intro world holds
    exact Run.leaves_bind (show Throughout (Sheet.Sound rows columns) _ from ⟨holds.1.unmerge _, holds.2⟩) fun _ => told _

theorem keeps_dispose (closed : Run.Keeps (Throughout (Sheet.Sound rows columns)) close) :
    Run.Keeps (Throughout (Sheet.Sound rows columns)) (Session.dispose close) := by
  apply Session.keeps_sheet
  intro world holds
  split
  · exact holds
  · refine Run.keeps_bind ?_ (fun _ => closed) world holds
    intro world holds
    obtain ⟨sound, shown⟩ := holds
    exact ⟨sound.of_parts rfl rfl sound.grid sound.merges sound.waiting, shown⟩

/-- A sheet stays sound while subscribers act. -/
theorem keeps_act (fuel : Nat) (action : Action (Change Int) SheetRequest Sheet) :
    Run.Keeps (Throughout (Sheet.Sound rows columns)) (sheetHost.act fuel action) :=
  sheetHost.keeps_act inert_throughout (fun _ => throughout_ended)
    (fun _ _ told closed request =>
      Session.keeps_perform (upheld_throughout told) request fun _ => keeps_dispose closed)
    fuel action

/-- What can come about: a sheet of accepted dimensions with its first contents, and then actions one after another,
whatever they are and whether they fail or not. -/
inductive Reachable : SheetWorld → Prop
  | created (options : Payload) (equality : CellEquality) (cells : List (Address Number × Cell)) {rows columns : Nat}
      {sheet : Sheet} (dimensions : Dimensions.load options = .ok (rows, columns))
      (made : Sheet.create rows columns equality cells = .ok sheet) : Reachable { state := sheet }
  | acted {world : SheetWorld} (earlier : Reachable world) (fuel : Nat)
      (action : Action (Change Int) SheetRequest Sheet) : Reachable ((sheetHost.act fuel action).leaves world)

theorem Reachable.sound (reachable : Reachable world) :
    ∃ rows columns, Throughout (Sheet.Sound rows columns) world := by
  induction reachable with
  | created options equality cells dimensions made =>
    exact ⟨_, _, Sheet.sound_create (Dimensions.load_le dimensions) made, by simp⟩
  | acted earlier fuel action ih =>
    obtain ⟨rows, columns, holds⟩ := ih
    exact ⟨rows, columns, keeps_act fuel action _ holds⟩

/-- The parts of a sheet agree in every state that can come about, and in every state that a subscriber is shown. -/
theorem Reachable.throughout_consistent (reachable : Reachable world) : Throughout Sheet.Consistent world := by
  obtain ⟨rows, columns, sound, shown⟩ := reachable.sound
  exact ⟨sound.consistent, fun delivery member => (shown delivery member).consistent⟩

/-- Also while a subscriber empties the sheet as soon as it is told that a cell was written. -/
theorem throughout_consistent_with_eraser :
    let start : SheetWorld := { state := { rows := maxRows, columns := maxColumns } }
    let watched := (sheetHost.act 3 (.subscribe "eraser" (fun _ => [.request .clear]) none)).leaves start
    let world := (sheetHost.act 3 (.request (.setValue ⟨0, 0⟩ (some (.number 1))))).leaves watched
    Reachable world ∧ Throughout Sheet.Consistent world := by
  have start : Reachable { state := { rows := maxRows, columns := maxColumns } } :=
    .created (.record []) {} [] rfl rfl
  have reachable := (start.acted 3 (.subscribe "eraser" (fun _ => [.request .clear]) none)).acted 3
    (.request (.setValue ⟨0, 0⟩ (some (.number 1))))
  exact ⟨reachable, reachable.throughout_consistent⟩

end SheetWorld
end Spreadsheet
