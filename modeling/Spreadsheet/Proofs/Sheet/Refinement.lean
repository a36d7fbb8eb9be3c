import Spreadsheet.Proofs.Sheet.Contents

/-! A sheet refines the plain grid that it stands for: what is written changes this grid as its writing says, and what is
read depends on this grid alone, whatever the order was in which it came about. -/
namespace Spreadsheet

namespace Holding
variable {holding : Holding}

private theorem plain_keep {α : Type} (content : Option (Content α)) (wanted : α → Bool) :
    ((Aspect.ofContent? content).keep wanted).map Content.plain =
      (Aspect.ofContent? (content.map Content.plain)).keep wanted := by
  cases content with
  | none => rfl
  | some content =>
    by_cases kept : wanted content.value = true <;>
      simp [Aspect.keep, Aspect.ofContent?, Aspect.content?, Aspect.map, Option.filter, Content.plain, kept]

theorem plain_toCell : holding.toCell.plain = holding.plain.toCell := by
  simp only [toCell, Cell.tidy, Cell.plain, plain, plain_keep]

end Holding

/-- What is read of a cell, from the plain grid. -/
def Contents.cell? (contents : Contents) (cell : Address Int) : Option Cell :=
  if (contents cell).isOccupied = true then some (contents cell).toCell else none

namespace CellSet
variable {cells others : CellSet} {coordinate : Address Int → Int} {last final : Int}

/-- The last coordinate depends on which cells there are, and on nothing else. -/
theorem IsLast.eq (first : IsLast cells coordinate last) (second : IsLast others coordinate final)
    (same : ∀ cell, cell ∈ cells ↔ cell ∈ others) : last = final := by
  obtain ⟨bound, attained⟩ := first
  obtain ⟨limit, reached⟩ := second
  rcases attained with ⟨cell, member, rfl⟩ | ⟨rfl, empty⟩
  · rcases reached with ⟨other, there, rfl⟩ | ⟨rfl, none⟩
    · exact Int.le_antisymm (limit cell ((same cell).mp member)) (bound other ((same other).mpr there))
    · exact absurd ((same cell).mp member) (none cell)
  · rcases reached with ⟨other, there, rfl⟩ | ⟨rfl, _⟩
    · exact absurd ((same other).mpr there) (empty other)
    · rfl

end CellSet

namespace Sheet
variable {sheet other : Sheet} {rows columns height width : Nat}

theorem Sound.mem_populated (sound : sheet.Sound rows columns) (cell : Address Int) :
    cell ∈ sheet.grid.populated ↔ (sheet.contents cell).isOccupied = true := by
  rw [contents, Holding.isOccupied_plain]
  exact sound.grid.mem_populated cell

theorem Sound.map_plain_cell? (sound : sheet.Sound rows columns) (cell : Address Int) :
    (sheet.grid.cell? cell).map Cell.plain = sheet.contents.cell? cell := by
  have populated := sound.mem_populated cell
  rw [← Std.TreeSet.contains_iff_mem] at populated
  rw [Grid.cell?_eq, Contents.cell?]
  by_cases present : sheet.grid.populated.contains cell = true
  · rw [if_pos present, if_pos (populated.mp present), Option.map_some, Holding.plain_toCell]
    rfl
  · rw [if_neg present, if_neg fun occupied => present (populated.mpr occupied)]
    rfl

/-- Cells that are collected at some addresses. -/
theorem Sound.map_plain_collect (sound : sheet.Sound rows columns) (addresses : List (Address Int)) :
    ((sheet.grid.collect addresses).map fun (cell, content) => (cell, content.plain)) =
      addresses.filterMap fun cell => (sheet.contents.cell? cell).map (cell, ·) := by
  unfold Grid.collect
  rw [List.map_filterMap]
  congr 1
  funext cell
  rw [← sound.map_plain_cell?]
  cases sheet.grid.cell? cell <;> rfl

/-- Sheets that stand for one plain grid are read alike, however they came about. -/
structure ReadAlike (sheet other : Sheet) : Prop where
  cell? : ∀ address, sheet.cell? address = other.cell? address
  cells : sheet.cells = other.cells
  cellsIn : ∀ range, sheet.cellsIn range = other.cellsIn range
  count : sheet.grid.populated.size = other.grid.populated.size
  lastRow : sheet.grid.lastRow = other.grid.lastRow
  lastColumn : sheet.grid.lastColumn = other.grid.lastColumn

theorem Sound.readAlike (sound : sheet.Sound rows columns) (others : other.Sound height width)
    (same : sheet.contents = other.contents) : ReadAlike sheet other := by
  have populated (cell : Address Int) : cell ∈ sheet.grid.populated ↔ cell ∈ other.grid.populated := by
    rw [sound.mem_populated, others.mem_populated, same]
  have equivalent : sheet.grid.populated.Equiv other.grid.populated := .of_forall_mem_iff populated
  have listed : sheet.grid.populatedInGiven = other.grid.populatedInGiven := by
    funext range
    simp only [Grid.populatedInGiven, Grid.populatedIn, equivalent.size_eq, equivalent.toList_eq,
      funext fun cell => equivalent.contains_eq (k := cell)]
  refine ⟨?_, ?_, ?_, equivalent.size_eq, sound.grid.lastRow.eq others.grid.lastRow populated,
    sound.grid.lastColumn.eq others.grid.lastColumn populated⟩
  · intro address
    unfold Sheet.cell? source? read
    cases address.toInt? with
    | none => rfl
    | some cell =>
      change (sheet.grid.cell? cell).map _ = (other.grid.cell? cell).map _
      rw [sound.map_plain_cell?, others.map_plain_cell?, same]
  · unfold Sheet.cells Grid.cells
    rw [sound.map_plain_collect, others.map_plain_collect, same, equivalent.toList_eq]
  · intro range
    unfold Sheet.cellsIn
    rw [sound.map_plain_collect, others.map_plain_collect, same, listed]

end Sheet

namespace SheetWorld
variable {world : SheetWorld} {publish : Publisher}

/-- Whoever is told leaves the sheet as it is. -/
def Quiet (publish : Publisher) : Prop := ∀ event world, ((publish event).leaves world).state = world.state

theorem Quiet.forM (quiet : Quiet publish) (events : List (Change Int)) (world : SheetWorld) :
    (Run.leaves (events.forM publish) world).state = world.state :=
  show (fun after : SheetWorld => after.state = world.state) _ from
    Run.keeps_forM (fun event _ after same => (quiet event after).trans same) world rfl

/-- A sheet that can come about refines its plain grid. A request to write cells, if it is accepted, changes the grid as
its writing says before anything is told, and this is what it leaves unless it is changed by whoever is told; if it is
not accepted, nothing happens. A sheet with the same grid is read alike, whatever its history. -/
theorem Reachable.refines_contents (reachable : Reachable world) :
    (∀ request writing publish close, SheetRequest.writing? request = some writing →
      Session.Performs publish (Session.perform publish close request) writing world ∧
        (writing.Accepted world.state → Quiet publish →
          ((Session.perform publish close request).leaves world).state.contents =
            writing.update world.state.contents)) ∧
    ∀ other : SheetWorld, Reachable other → world.state.contents = other.state.contents →
      Sheet.ReadAlike world.state other.state := by
  obtain ⟨rows, columns, sound, _⟩ := reachable.sound
  refine ⟨?_, ?_⟩
  · intro request writing publish close asked
    have performs : Session.Performs publish (Session.perform publish close request) writing world :=
      Session.performs_writing sound asked
    refine ⟨performs, ?_⟩
    intro accepted quiet
    obtain ⟨events, after, contents, done⟩ := performs.1 accepted
    have state := quiet.forM events { world with state := after }
    unfold Run.leaves at state ⊢
    rw [done, state, contents]
  · intro other arrived same
    obtain ⟨height, width, others, _⟩ := arrived.sound
    exact sound.readAlike others same

/-- Also after a batch that was given up halfway. -/
theorem refines_contents_after_failure :
    let start : SheetWorld := { state := { rows := maxRows, columns := maxColumns } }
    let failed := (sheetHost.act 3 (.request
      (.batch [.setValue ⟨0, 0⟩ (some (.number 1)), .giveUp .disposed, .clear]))).leaves start
    Reachable failed ∧
      (∀ request writing publish close, SheetRequest.writing? request = some writing →
        Session.Performs publish (Session.perform publish close request) writing failed ∧
          (writing.Accepted failed.state → Quiet publish →
            ((Session.perform publish close request).leaves failed).state.contents =
              writing.update failed.state.contents)) ∧
      ∀ other : SheetWorld, Reachable other → failed.state.contents = other.state.contents →
        Sheet.ReadAlike failed.state other.state := by
  have start : Reachable { state := { rows := maxRows, columns := maxColumns } } :=
    .created (.record []) {} [] rfl rfl
  have failed := start.acted 3 (.request (.batch [.setValue ⟨0, 0⟩ (some (.number 1)), .giveUp .disposed, .clear]))
  exact ⟨failed, failed.refines_contents⟩

end SheetWorld
end Spreadsheet
