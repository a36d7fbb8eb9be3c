import Spreadsheet.Proofs.Sheet.Consistency
import Spreadsheet.Proofs.Sheet.Mirroring
import Spreadsheet.Proofs.Sheet.Reversed

/-! The four directions of a fill are one: rows may be exchanged with columns, and what comes before the source with what
comes after it. -/
namespace Spreadsheet

namespace Sheet
variable {rows columns : Nat} {sheet reverse : Sheet} {vertical : Bool}
  {source destination onward strip next : Range Number} {wide goal further : Range Int}

/-- The sheet after the source has gone on in the strip. -/
def filled (sheet : Sheet) (direction : FillDirection) (source : Range Number) (wide goal : Range Int) : Sheet :=
  sheet.writtenAll (sheet.continued direction (direction.origin source) wide goal none)

theorem FillsStrip.adjoins {direction : FillDirection}
    (fills : sheet.FillsStrip direction source destination strip wide goal) (bounded : sheet.Bounded) :
    direction.Adjoins wide goal := by
  obtain ⟨_, named, proper, within⟩ := writableRange_ok_iff.mp fills.first
  obtain ⟨_, arrives, _⟩ := writableRange_ok_iff.mp fills.second
  exact FillDirection.adjoins_of_toward? named (bounded.isSmall within proper) fills.leads arrives

/-- Before a source and after the reversed one the same is written. -/
theorem Reverses.contents_filled (reverses : sheet.Reverses vertical wide reverse)
    (fills : sheet.FillsStrip ⟨vertical, true⟩ source destination strip wide goal) (bounded : sheet.Bounded)
    (others : reverse.FillsStrip ⟨vertical, false⟩ source onward next wide further) (limited : reverse.Bounded)
    {line : Int} {steps : Nat} (before : goal.contains (FillDirection.stepsBefore vertical wide line steps) = true)
    (after : further.contains (FillDirection.stepsAfter vertical wide line steps) = true) :
    (sheet.filled ⟨vertical, true⟩ source wide goal).contents (FillDirection.stepsBefore vertical wide line steps) =
      (reverse.filled ⟨vertical, false⟩ source wide further).contents
        (FillDirection.stepsAfter vertical wide line steps) := by
  have adjoins := fills.adjoins bounded
  have within : line ∈ Range.span (wide.oriented vertical).left (wide.oriented vertical).right := by
    rw [FillDirection.stepsBefore, ← Range.contains_oriented vertical, Address.oriented_oriented,
      Range.contains_iff] at before
    rw [Range.mem_span, ← adjoins.lines.1, ← adjoins.lines.2]
    exact before.2.2
  unfold Sheet.filled
  rw [contents_writtenAll_continued adjoins, if_pos before, contents_writtenAll_continued (others.adjoins limited),
    if_pos after, reverses.continuation within]

end Sheet

namespace Session
open Run Sheet
variable {rows columns : Nat} {publish : Publisher} {world : SheetWorld}

/-- A fill from a source without regions inside writes the strip, and that is all. -/
theorem succeeds_smartFill_strip (tells : OnlyTells publish) (reads : world.feed.OnlyRead)
    (sound : world.state.Sound rows columns) {source destination strip : Range Number} {wide goal : Range Int}
    {direction : FillDirection} (fills : world.state.FillsStrip direction source destination strip wide goal)
    (free : ¬world.state.HasInside wide) :
    Succeeds (smartFill publish source destination none) world fun found state =>
      found = some (source.union strip) ∧ state = world.state.filled direction source wide goal := by
  obtain ⟨_, named, _⟩ := writableRange_ok_iff.mp fills.first
  have empty : (world.state.merges.inside source).isEmpty = true := by
    refine List.isEmpty_iff.mpr (List.eq_nil_iff_forall_not_mem.mpr fun region member => free ?_)
    exact ⟨region, (sound.merges.mem_inside named).mp member⟩
  have worked : world.state.fillTarget direction source strip wide goal = strip := by
    rw [Sheet.fillTarget, if_pos empty]
    rfl
  refine Succeeds.of_outcome (outcome_smartFill (fills.aims worked fills.second)) ?_
  refine (succeeds_carryOn tells reads sound fills.first fills.second (fun _ => exists_made_of_mem_continued) _).mono ?_
  rintro _ state ⟨rfl, created, replicates, _⟩
  refine ⟨rfl, replicates.idle fun region member => ?_⟩
  rw [← Bool.not_eq_true]
  intro inside
  refine free ⟨region, ?_, inside⟩
  have same : (world.state.filled direction source wide goal).regions = world.state.regions :=
    congrArg MergeRegistry.regions merges_writtenAll
  exact same ▸ member

end Session

/-- How fills without a generator depend on their direction. -/
structure FillSymmetry (publish : Publisher) (world : SheetWorld) (source destination : Range Number) : Prop where
  /-- There is a transposed sheet, unless it would have too many columns. -/
  mirror : world.state.rows ≤ maxColumns →
    Sheet.Twins world.state.rows world.state.columns world.state world.state.transpose
  /-- On a transposed sheet transposed arguments give the transposed answer, and the sheets are transposes of each other
  afterwards. -/
  transposed : ¬FillDirection.LeavesBoth source destination → ∀ mirror : SheetWorld, mirror.feed.OnlyRead →
    Sheet.Twins world.state.rows world.state.columns world.state mirror.state →
    Run.Alike (Sheet.Twins world.state.rows world.state.columns) (Session.smartFill publish source destination none) world
      (Session.smartFill publish source.transpose destination.transpose none) mirror
      fun found other => other = found.map Range.transpose
  /-- There is a sheet on which the lines of the source are stored in the reverse order. -/
  reverse : ∀ vertical wide, world.state.writableRange source = .ok wide →
    (world.state.withReversed vertical wide).Sound world.state.rows world.state.columns ∧
      world.state.Reverses vertical wide (world.state.withReversed vertical wide)
  /-- What a fill backward writes some steps before the source, a fill forward writes as many steps after the reversed
  source. -/
  reversed : ∀ vertical strip wide goal,
    world.state.FillsStrip ⟨vertical, true⟩ source destination strip wide goal → ¬world.state.HasInside wide →
    ∀ (reverse : SheetWorld) rows columns, reverse.feed.OnlyRead → reverse.state.Sound rows columns →
    world.state.Reverses vertical wide reverse.state →
    ∀ onward next further, reverse.state.FillsStrip ⟨vertical, false⟩ source onward next wide further →
    Run.Succeeds (Session.smartFill publish source destination none) world fun found state =>
      found = some (source.union strip) ∧
      Run.Succeeds (Session.smartFill publish source onward none) reverse fun other last =>
        other = some (source.union next) ∧ ∀ line steps,
          goal.contains (FillDirection.stepsBefore vertical wide line steps) = true →
          further.contains (FillDirection.stepsAfter vertical wide line steps) = true →
          state.contents (FillDirection.stepsBefore vertical wide line steps) =
            last.contents (FillDirection.stepsAfter vertical wide line steps)

namespace SheetWorld
variable {world : SheetWorld}

/-- Fills are symmetric on every sheet that can come about. -/
theorem Reachable.fillSymmetry (reachable : Reachable world) (reads : world.feed.OnlyRead) (fuel : Nat)
    (source destination : Range Number) :
    FillSymmetry (Run.emit (sheetHost.act fuel) sheetHost.describe) world source destination := by
  obtain ⟨rows, columns, sound, _⟩ := reachable.sound
  obtain ⟨rfl, rfl, _⟩ := id sound
  have tells := Run.onlyTells_emit (sheetHost.act fuel) sheetHost.describe
  refine ⟨sound.twins, ?_, ?_, ?_⟩
  · intro single mirror silent twins
    exact (Session.parallel_smartFill tells single).go reads silent twins
  · intro vertical wide passed
    have within := (Sheet.writableRange_ok_iff.mp passed).2.2.2
    exact ⟨sound.withReversed (sound.area_eq ▸ within), Sheet.reverses_withReversed⟩
  · intro vertical strip wide goal fills free reverse rows columns silent whole reverses onward next further others
    refine (Session.succeeds_smartFill_strip tells reads sound fills free).mono ?_
    rintro found state ⟨rfl, rfl⟩
    have none : ¬reverse.state.HasInside wide := by
      unfold Sheet.HasInside at free ⊢
      rwa [reverses.regions]
    refine ⟨rfl, (Session.succeeds_smartFill_strip tells silent whole others none).mono ?_⟩
    rintro other last ⟨rfl, rfl⟩
    exact ⟨rfl, fun line steps => reverses.contents_filled fills sound.bounded others whole.bounded⟩

/-- Two numbers in a column go on upwards as they do to the left in the transposed sheet, and as downwards they do from the
reversed column. -/
theorem fillSymmetry_of_column :
    let start : SheetWorld := { state := { rows := 10, columns := 8 } }
    let joined := (sheetHost.act 3 (.request (.merge ⟨0, 0, 0, 1⟩))).leaves start
    let first := (sheetHost.act 3 (.request (.setValue ⟨4, 5⟩ (some (.number 1))))).leaves joined
    let world := (sheetHost.act 3 (.request (.setValue ⟨5, 5⟩ (some (.number 3))))).leaves first
    let mirror : SheetWorld := { state := world.state.transpose }
    let reverse : SheetWorld := { state := world.state.withReversed true ⟨4, 5, 5, 5⟩ }
    let publish := Run.emit (sheetHost.act 3) sheetHost.describe
    let up := (Session.smartFill publish ⟨4, 5, 5, 5⟩ ⟨2, 5, 3, 5⟩ none).outcome world
    let left := (Session.smartFill publish ⟨5, 4, 5, 5⟩ ⟨5, 2, 5, 3⟩ none).outcome mirror
    let down := (Session.smartFill publish ⟨4, 5, 5, 5⟩ ⟨6, 5, 7, 5⟩ none).outcome reverse
    FillSymmetry publish world ⟨4, 5, 5, 5⟩ ⟨2, 5, 3, 5⟩ ∧ Sheet.Twins 10 8 up.2.state left.2.state ∧
      up.2.state.contents ⟨2, 5⟩ = down.2.state.contents ⟨7, 5⟩ ∧ up.2.state.value? ⟨2, 5⟩ = some (.number (-3)) := by
  intro start joined first world mirror reverse publish up left down
  have begin : Reachable start :=
    .created (.record [("rowCount", .number 10), ("columnCount", .number 8)]) {} [] rfl rfl
  have reachable : Reachable world := ((begin.acted 3 _).acted 3 _).acted 3 _
  have reads : world.feed.OnlyRead := Feed.onlyRead_of_nil (List.isEmpty_iff.mp (by decide +kernel))
  have symmetry : FillSymmetry publish world ⟨4, 5, 5, 5⟩ ⟨2, 5, 3, 5⟩ := reachable.fillSymmetry reads 3 _ _
  have evaluated : world.state.rows = 10 ∧ world.state.columns = 8 ∧ world.state.isDisposed = false ∧
      world.state.regions.map MergeRegion.cells = [⟨0, 0, 0, 1⟩] ∧ up.2.state.value? ⟨2, 5⟩ = some (.number (-3)) := by
    decide +kernel
  obtain ⟨rows, columns, live, regions, value⟩ := evaluated
  have writable (state : Sheet) (same : state.rows = 10 ∧ state.columns = 8 ∧ state.isDisposed = false)
      (range : Range Number) (cells : Range Int) (named : range.toInt? = some cells) (proper : cells.Proper)
      (within : Range.containsRange ⟨0, 0, 9, 7⟩ cells = true) : state.writableRange range = .ok cells := by
    obtain ⟨rows, columns, live⟩ := same
    refine Sheet.writableRange_ok_iff.mpr ⟨live, named, proper, ?_⟩
    rw [Sheet.area, rows, columns]
    exact within
  have single : ¬FillDirection.LeavesBoth (α := Number) ⟨4, 5, 5, 5⟩ ⟨2, 5, 3, 5⟩ := by
    unfold FillDirection.LeavesBoth
    decide +kernel
  have source := writable world.state ⟨rows, columns, live⟩ ⟨4, 5, 5, 5⟩ ⟨4, 5, 5, 5⟩ (by decide +kernel)
    ⟨by decide, by decide⟩ (by decide)
  have above := writable world.state ⟨rows, columns, live⟩ ⟨2, 5, 3, 5⟩ ⟨2, 5, 3, 5⟩ (by decide +kernel)
    ⟨by decide, by decide⟩ (by decide)
  have free : ¬world.state.HasInside ⟨4, 5, 5, 5⟩ := by
    rintro ⟨region, listed, inside⟩
    have same : region.cells ∈ [(⟨0, 0, 0, 1⟩ : Range Int)] := regions ▸ List.mem_map_of_mem listed
    rw [List.mem_singleton.mp same] at inside
    revert inside
    decide
  have bounded : world.state.Bounded := ⟨rows ▸ by decide, columns ▸ by decide⟩
  have low : world.state.rows ≤ maxColumns := rows ▸ by decide
  obtain ⟨_, state, _, _, last, _, done, ended, twins, _⟩ :=
    symmetry.transposed single mirror (Feed.onlyRead_of_nil rfl) (symmetry.mirror low)
  obtain ⟨whole, reverses⟩ := symmetry.reverse true _ source
  have kept : reverse.state.rows = 10 ∧ reverse.state.columns = 8 ∧ reverse.state.isDisposed = false := by
    decide +kernel
  have again := writable reverse.state kept ⟨4, 5, 5, 5⟩ ⟨4, 5, 5, 5⟩ (by decide +kernel)
    ⟨by decide, by decide⟩ (by decide)
  have below := writable reverse.state kept ⟨6, 5, 7, 5⟩ ⟨6, 5, 7, 5⟩ (by decide +kernel)
    ⟨by decide, by decide⟩ (by decide)
  have limited : reverse.state.Bounded := ⟨kept.1 ▸ by decide, kept.2.1 ▸ by decide⟩
  have backward : world.state.FillsStrip ⟨true, true⟩ _ _ _ _ _ := bounded.fillsStrip source above rfl
  have forward : reverse.state.FillsStrip ⟨true, false⟩ _ _ _ _ _ := limited.fillsStrip again below rfl
  obtain ⟨_, after, _, filled, _, _, other, _, onward, _, same⟩ :=
    symmetry.reversed true _ _ _ backward free reverse _ _ (Feed.onlyRead_of_nil rfl) whole reverses _ _ _ forward
  refine ⟨symmetry, ?_, ?_, value⟩
  · rw [show up = _ from done, show left = _ from ended, ← rows, ← columns]
    exact twins
  · rw [show up = _ from filled, show down = _ from onward]
    exact same 5 2 (by decide) (by decide)

end SheetWorld
end Spreadsheet
