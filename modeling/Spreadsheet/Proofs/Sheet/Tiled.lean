import Spreadsheet.Proofs.Fill.Tiled
import Spreadsheet.Proofs.Sheet.Symmetry

/-! Fills that play the source over and over, by a generator that gives back what it is given or because no line of the
source goes on in another way. The target is tiled by the source, from the cells of the source on to both sides, and
the copies of regions lie where the copies of their cells are. -/
namespace Spreadsheet

namespace FillDirection
variable {direction : FillDirection} {source narrow goal : Range Int} {strip : Range Number} {farEnd : Number}

/-- A target that ends elsewhere is next to the source still. -/
theorem Adjoins.endingAt (adjoins : direction.Adjoins source narrow) (named : strip.toInt? = some narrow)
    (arrives : (direction.endingAt strip farEnd).toInt? = some goal) : direction.Adjoins source goal := by
  obtain ⟨top, left, bottom, right⟩ := Range.toInt?_eq_some_iff.mp (Range.toInt?_oriented named direction.vertical)
  have turned := Range.toInt?_oriented arrives direction.vertical
  unfold FillDirection.endingAt at turned
  rw [Range.oriented_oriented] at turned
  rw [adjoins_iff] at adjoins ⊢
  obtain ⟨near, lines⟩ := adjoins
  cases backward : direction.backward
  · rw [backward, if_neg Bool.false_ne_true] at turned near
    obtain ⟨start, first, _, last⟩ := Range.toInt?_eq_some_iff.mp turned
    refine ⟨(Option.some.inj (start.symm.trans top)).trans near, ?_, ?_⟩
    · exact (Option.some.inj (first.symm.trans left)).trans lines.1
    · exact (Option.some.inj (last.symm.trans right)).trans lines.2
  · rw [backward, if_pos rfl] at turned near
    obtain ⟨_, first, stop, last⟩ := Range.toInt?_eq_some_iff.mp turned
    refine ⟨(Option.some.inj (stop.symm.trans bottom)).trans near, ?_, ?_⟩
    · exact (Option.some.inj (first.symm.trans left)).trans lines.1
    · exact (Option.some.inj (last.symm.trans right)).trans lines.2

end FillDirection

namespace Sheet
variable {rows columns : Nat} {sheet : Sheet} {direction : FillDirection} {source target : Range Int}
  {origin : Address Number} {generator : Option Generator}

/-- The generator gives back what it is given, or there is none and the lines of the source are of no kind that goes on. -/
def PlaysOver (sheet : Sheet) (direction : FillDirection) (source : Range Int) : Option Generator → Prop
  | some generator => ∀ address cell, generator address cell = .ok cell
  | none => ∀ run ∈ direction.runs source, (FillPattern.detect sheet.equality (run.map sheet.grid.cell?)).kind = "cycle"

/-- For each cell of the target such a fill makes the cell of the source where it lies in its span. -/
theorem PlaysOver.made_of_mem_continued (plays : sheet.PlaysOver direction source generator)
    (adjoins : direction.Adjoins source target) (proper : source.Proper) (small : source.IsSmall) (short : target.IsSmall)
    {pair : Address Int × Except SheetError (Option Cell)}
    (member : pair ∈ sheet.continued direction origin source target generator) :
    pair.2 = .ok (sheet.grid.cell? (source.wrapped direction.vertical pair.1)) := by
  obtain ⟨line, index, listed, found, same⟩ := exists_place_of_mem_continued adjoins member
  have wrapped := adjoins.getElem?_wrapped proper found
  obtain ⟨room, _⟩ := List.getElem?_eq_some_iff.mp wrapped
  obtain ⟨near, _⟩ := List.getElem?_eq_some_iff.mp found
  let cells := (direction.run source line).map sheet.grid.cell?
  have long : cells.length = (direction.run source line).length := List.length_map _
  have place : (cells[index % cells.length]?).join = sheet.grid.cell? (source.wrapped direction.vertical pair.1) := by
    rw [long, List.getElem?_map, wrapped]
    rfl
  rw [same]
  cases generator with
  | some generator => exact (plays _ _).trans (congrArg _ place)
  | none =>
    have bound {range : Range Int} (small : range.IsSmall) : (direction.run range line).length < 2 ^ (53 : Nat) := by
      obtain ⟨top, left, bottom, right⟩ := (Range.isSmall_oriented direction.vertical).mpr small
      rw [FillDirection.length_run]
      simp only [FillDirection.length, Range.rows]
      omega
    have generated := FillPattern.generate_cycle cells (long ▸ Nat.lt_of_le_of_lt (Nat.zero_le _) room)
      (long ▸ bound small) (near.trans (bound short))
    rw [place, ← FillPattern.detect_eq_cycle (plays _ listed)] at generated
    exact congrArg _ generated

/-- Before any region comes or goes, the target is tiled by the source. -/
theorem Sound.contents_playedOver (sound : sheet.Sound rows columns) (plays : sheet.PlaysOver direction source generator)
    (adjoins : direction.Adjoins source target) (proper : source.Proper) (small : source.IsSmall) (short : target.IsSmall)
    (cell : Address Int) :
    (sheet.writtenAll (sheet.continued direction origin source target generator)).contents cell =
      if target.contains cell = true then (sheet.contents (source.wrapped direction.vertical cell)).kept
      else sheet.contents cell := by
  rw [contents_writtenAll (fun cell => sheet.grid.cell? (source.wrapped direction.vertical cell)) fun _ =>
    plays.made_of_mem_continued adjoins proper small short]
  simp only [mem_continued adjoins, sound.grid.ofCell_cell?, Holding.plain_kept, contents]

/-- What comes of a fill that plays the source over: the target is tiled by the source, and each new region is a region of
the source, moved by whole spans, whose first cell holds what that of the region in the source holds. -/
structure PlayedOver (before : Sheet) (direction : FillDirection) (source target : Range Int) (created : List MergeRegion)
    (after : Sheet) : Prop where
  adjoins : direction.Adjoins source target
  within : before.area.containsRange target = true
  outside : ∀ cell, target.contains cell = false → after.contents cell = before.contents cell
  tiled : ∀ cell, target.contains cell = true → ¬IsCovered created cell →
    after.contents cell = (before.contents (source.wrapped direction.vertical cell)).kept
  covered : ∀ cell, IsCovered created cell →
    after.contents cell = (before.contents (source.wrapped direction.vertical cell)).kept.withoutContent
  regions : ∃ kept, after.regions = kept ++ created ∧ kept.Sublist before.regions
  copied : ∀ region ∈ created, target.containsRange region.cells = true ∧ ∃ origin ∈ before.regions,
    source.containsRange origin.cells = true ∧
      (∃ spans : Int, region.cells = origin.cells.along direction.vertical (spans * direction.length source)) ∧
      after.contents region.cells.topLeft = (before.contents origin.cells.topLeft).kept

/-- Copies of the regions lie as the cells of the tiles do. -/
theorem Replicates.playedOver {created : List MergeRegion} {after : Sheet}
    (replicates : Replicates rows columns (sheet.writtenAll (sheet.continued direction origin source target generator)) source
      target created after)
    (copied : ∀ region ∈ created, ∃ origin ∈ sheet.regions, source.containsRange origin.cells = true ∧
      Tiling.IsReplica source target direction.vertical origin.cells region.cells)
    (sound : sheet.Sound rows columns) (plays : sheet.PlaysOver direction source generator)
    (adjoins : direction.Adjoins source target) (proper : source.Proper) (inside : sheet.area.containsRange source = true)
    (order : target.Proper) (within : sheet.area.containsRange target = true) :
    sheet.PlayedOver direction source target created after := by
  have written := @Sound.contents_playedOver rows columns sheet direction source target origin generator sound plays adjoins
    proper (sound.bounded.isSmall inside proper) (sound.bounded.isSmall within order)
  have tiled {cell : Address Int} (inside : target.contains cell = true) (free : ¬IsCovered created cell) :
      after.contents cell = (sheet.contents (source.wrapped direction.vertical cell)).kept := by
    rw [replicates.other free, written, if_pos inside]
  obtain ⟨cleared, sublist, _, _, registers⟩ := replicates.registers
  refine ⟨adjoins, within, ?_, fun _ => tiled, ?_, ⟨cleared.regions, registers.regions, ?_⟩, ?_⟩
  · intro cell outside
    rw [replicates.outside outside, written, if_neg (by simp [outside])]
  · intro cell covered
    rw [replicates.covered covered, written, if_pos (covered.contains replicates.inside)]
  · rwa [show (sheet.writtenAll _).regions = sheet.regions from congrArg MergeRegistry.regions merges_writtenAll] at sublist
  · intro region member
    obtain ⟨origin, listed, held, replica⟩ := copied region member
    have shaped := sound.merges.proper origin listed
    obtain ⟨spans, moved⟩ := adjoins.exists_along proper replica
    have room := replicates.inside region member
    have first := Range.contains_trans room (replicates.contains_topLeft member)
    refine ⟨room, origin, listed, held, ⟨spans, moved⟩, ?_⟩
    rw [tiled first (replicates.not_isCovered_topLeft member), moved, FillDirection.length, Range.wrapped_along held shaped]

/-- The target of a fill that passes its checks is next to the source. -/
theorem Aims.adjoins {source destination given : Range Number} {wide goal : Range Int}
    (aims : sheet.Aims direction source destination given wide goal) (bounded : sheet.Bounded) :
    direction.Adjoins wide goal := by
  obtain ⟨first, ⟨strip, narrow, leads, second, worked⟩, third⟩ := aims
  obtain ⟨_, named, proper, within⟩ := writableRange_ok_iff.mp first
  obtain ⟨_, reached, _, _⟩ := writableRange_ok_iff.mp third
  obtain ⟨arrives, _⟩ := Range.checked_ok_iff.mp second
  have adjoins := FillDirection.adjoins_of_toward? named (bounded.isSmall within proper) leads arrives
  rw [← worked, fillTarget] at reached
  cases far : (if (sheet.merges.inside source).isEmpty then none else direction.farEnd? sheet.area wide narrow) with
  | none =>
    rw [far] at reached
    cases arrives.symm.trans reached
    exact adjoins
  | some farEnd =>
    rw [far] at reached
    exact adjoins.endingAt arrives reached

end Sheet

namespace Session
open Run Sheet
variable {rows columns : Nat} {publish : Publisher} {world : SheetWorld} {source destination : Range Number}
  {generator : Option Generator}

/-- A fill that does not pass its checks does nothing. -/
theorem outcome_smartFill_idle
    (idle : ∀ direction target wide goal, ¬world.state.Aims direction source destination target wide goal) :
    ∃ result, (smartFill publish source destination generator).outcome world = (result, world) ∧
      (result = .ok none ∨ ∃ error, result = .error error) := by
  unfold smartFill
  cases first : world.state.writableRange source with
  | error error => exact ⟨_, outcome_check_error first, .inr ⟨error, rfl⟩⟩
  | ok wide =>
    rw [outcome_check_ok first]
    cases leads : FillDirection.toward? source destination with
    | none => exact ⟨_, rfl, .inl rfl⟩
    | some aim =>
      obtain ⟨direction, strip⟩ := aim
      cases second : strip.checked with
      | error error => exact ⟨_, outcome_bind_error (by rw [outcome_lift, second]), .inr ⟨error, rfl⟩⟩
      | ok narrow =>
        dsimp only
        rw [second, outcome_bind_ok (outcome_lift _), outcome_bind_ok outcome_sheet]
        cases third : world.state.writableRange (world.state.fillTarget direction source strip wide narrow) with
        | error error => exact ⟨_, outcome_check_error third, .inr ⟨error, rfl⟩⟩
        | ok goal => exact absurd ⟨first, ⟨strip, narrow, leads, second, rfl⟩, third⟩ (idle direction _ wide goal)

/-- A fill that passes its checks and makes all of its cells has written them before it tells anything. -/
theorem exists_outcome_smartFill (publish : Publisher) {direction : FillDirection} {target : Range Number}
    {wide goal : Range Int} (aims : world.state.Aims direction source destination target wide goal)
    (made : ∀ pair ∈ world.state.continued direction (direction.origin source) wide goal generator,
      ∃ cell, pair.2 = .ok cell) :
    ∃ told : List (Change Int), (smartFill publish source destination generator).outcome world =
      (told.forM publish >>= fun _ => replicateMerges publish source target direction.vertical >>= fun _ =>
        pure (some (source.union target))).outcome
        { world with
          state := world.state.writtenAll
            (world.state.continued direction (direction.origin source) wide goal generator) } := by
  let cells := world.state.continued direction (direction.origin source) wide goal generator
  have live := (writableRange_ok_iff.mp aims.first).1
  have done : world.state.batchOpened.putAll cells = (.ok (), (world.state.batchOpened.putAll cells).2) :=
    Prod.ext (putAll_ok made) rfl
  have wrote : (writeAll publish cells).outcome world = _ := (outcome_writeAll cells live done).trans (outcome_bind_unit _)
  refine ⟨(world.state.batchOpened.putAll cells).2.due, ?_⟩
  rw [outcome_smartFill aims, outcome_bind, wrote]
  exact (outcome_bind _ _).symm

/-- A fill has tiled its target before it tells anything. Then it tells what was written, and copies regions. Subscribers may
do something in between; what is created is a region that is inside the source then, moved by whole spans. -/
structure Tiles (publish : Publisher) (fill : Session (Option (Range Number))) (world : SheetWorld)
    (direction : FillDirection) (source given : Range Number) (wide target : Range Int) (told : List (Change Int))
    (tiled : Sheet) : Prop where
  outcome : fill.outcome world =
    (told.forM publish >>= fun _ => replicateMerges publish source given direction.vertical >>= fun _ =>
      pure (some (source.union given))).outcome { world with state := tiled }
  regions : tiled.regions = world.state.regions
  contents : ∀ cell, tiled.contents cell =
    if target.contains cell = true then (world.state.contents (wide.wrapped direction.vertical cell)).kept
    else world.state.contents cell
  copied : ∀ now, now = (told.forM publish).leaves { world with state := tiled } → ∀ created after,
    (replicateMerges publish source given direction.vertical).outcome now = (.ok created, after) →
    ∀ region ∈ created, target.containsRange region.cells = true ∧ ∃ origin ∈ now.state.regions,
      wide.containsRange origin.cells = true ∧
        ∃ spans : Int, region.cells = origin.cells.along direction.vertical (spans * direction.length wide)

section playing
variable {direction : FillDirection} {given : Range Number} {wide target : Range Int} (sound : world.state.Sound rows columns)
  (aims : world.state.Aims direction source destination given wide target)
  (plays : world.state.PlaysOver direction wide generator)
include sound aims plays

/-- A fill tiles its target whatever subscribers do then, as long as they keep the sheet sound. -/
theorem exists_tiles
    (told : ∀ (events : List (Change Int)) (state : Sheet), state.Sound rows columns →
      ((events.forM publish).leaves { world with state }).state.Sound rows columns) :
    ∃ events tiled, Tiles publish (smartFill publish source destination generator) world direction source given wide target
      events tiled := by
  obtain ⟨_, _, proper, within⟩ := writableRange_ok_iff.mp aims.first
  obtain ⟨_, _, order, inside⟩ := writableRange_ok_iff.mp aims.second
  have adjoins := aims.adjoins sound.bounded
  have small := sound.bounded.isSmall within proper
  have short := sound.bounded.isSmall inside order
  obtain ⟨events, done⟩ := exists_outcome_smartFill publish aims fun pair member =>
    ⟨_, plays.made_of_mem_continued adjoins proper small short member⟩
  refine ⟨events, _, done, congrArg MergeRegistry.regions merges_writtenAll,
    sound.contents_playedOver plays adjoins proper small short, ?_⟩
  rintro now rfl created after copies region member
  have written : (world.state.writtenAll (world.state.continued direction (direction.origin source) wide target
      generator)).Sound rows columns :=
    sound.writtenAll fun pair member => Range.contains_trans (sound.area_eq ▸ inside) (contains_of_mem_continued member)
  obtain ⟨origin, listed, held, replica⟩ := exists_isReplica (told events _ written)
    (checked_of_writableRange aims.first) (checked_of_writableRange aims.second) small short copies region member
  have room : target.containsRange region.cells = true := by
    obtain ⟨_, _, _, room⟩ := replica
    exact room
  exact ⟨room, origin, listed, held, adjoins.exists_along proper replica⟩

/-- If subscribers only read, a fill does nothing else but to copy the regions with the cells. -/
theorem succeeds_smartFill_playedOver (tells : OnlyTells publish) (reads : world.feed.OnlyRead) :
    Succeeds (smartFill publish source destination generator) world fun found state =>
      found = some (source.union given) ∧ ∃ created, world.state.PlayedOver direction wide target created state := by
  obtain ⟨_, _, proper, within⟩ := writableRange_ok_iff.mp aims.first
  obtain ⟨_, _, order, inside⟩ := writableRange_ok_iff.mp aims.second
  have adjoins := aims.adjoins sound.bounded
  refine Succeeds.of_outcome (outcome_smartFill aims) ?_
  refine (succeeds_carryOn tells reads sound aims.first aims.second (fun pair member => ⟨_,
    plays.made_of_mem_continued adjoins proper (sound.bounded.isSmall within proper) (sound.bounded.isSmall inside order)
      member⟩) _).mono ?_
  rintro _ state ⟨rfl, created, replicates, copied⟩
  exact ⟨rfl, created, replicates.playedOver copied sound plays adjoins proper within order inside⟩

end playing

end Session

namespace SheetWorld
variable {world : SheetWorld}

/-- A fill with arguments in the sheet and a destination that is not inside the source passes its checks, and one that does
not pass them does nothing. If the source is played over, the target is tiled by it before anything is told; and if
subscribers only read, then nothing else happens but that regions of the source are copied with the cells. -/
theorem Reachable.smartFill_tiles (reachable : Reachable world) (fuel : Nat) (source destination : Range Number)
    (generator : Option Generator) :
    let publish := Run.emit (sheetHost.act fuel) sheetHost.describe
    let fill := Session.smartFill publish source destination generator
    (∀ wide goal, world.state.writableRange source = .ok wide → world.state.writableRange destination = .ok goal →
      wide.containsRange goal = false →
        ∃ direction given target, world.state.Aims direction source destination given wide target) ∧
    ((∀ direction given wide target, ¬world.state.Aims direction source destination given wide target) →
      ∃ result, fill.outcome world = (result, world) ∧ (result = .ok none ∨ ∃ error, result = .error error)) ∧
    ∀ direction given wide target, world.state.Aims direction source destination given wide target →
      world.state.PlaysOver direction wide generator →
      (∃ told tiled, Session.Tiles publish fill world direction source given wide target told tiled) ∧
      (world.feed.OnlyRead → ∃ created after news,
        fill.outcome world =
          (.ok (some (source.union given)), { world with state := after, trace := news ++ world.trace }) ∧
        world.state.PlayedOver direction wide target created after) := by
  intro publish fill
  obtain ⟨rows, columns, sound, shown⟩ := reachable.sound
  refine ⟨?_, Session.outcome_smartFill_idle, ?_⟩
  · intro wide goal first second outer
    cases leads : FillDirection.of? wide goal with
    | none => simp [FillDirection.of?_eq_none_iff.mp leads] at outer
    | some direction =>
      obtain ⟨given, target, aims, _⟩ := sound.exists_aims first second leads
      exact ⟨direction, given, target, aims⟩
  · intro direction given wide target aims plays
    constructor
    · refine Session.exists_tiles sound aims plays fun events state held => ?_
      have told (event : Change Int) : Run.Keeps (Throughout (Sheet.Sound rows columns)) (publish event) :=
        Run.keeps_emit inert_throughout (fun _ _ action _ => keeps_act fuel action) sheetHost.describe
      exact (Run.keeps_forM (fun event _ => told event) { world with state } ⟨held, shown⟩).1
    · intro reads
      obtain ⟨_, after, news, done, rfl, created, played⟩ := Session.succeeds_smartFill_playedOver sound aims plays
        (Run.onlyTells_emit (sheetHost.act fuel) sheetHost.describe) reads
      exact ⟨created, after, news, done, played⟩

/-- A fill upwards that the edge of the sheet cuts short: of four rows there are one tile and a row, which is the last one of
another tile. -/
theorem smartFill_tiles_to_edge :
    let start : SheetWorld := { state := { rows := maxRows, columns := maxColumns } }
    let first := (sheetHost.act 3 (.request (.setValue ⟨6, 0⟩ (some (.number 7))))).leaves start
    let second := (sheetHost.act 3 (.request (.setValue ⟨5, 1⟩ (some (.text "joined"))))).leaves first
    let joined := (sheetHost.act 3 (.request (.merge ⟨5, 1, 6, 1⟩))).leaves second
    let world := (sheetHost.act 3 (.subscribe "reader" (fun _ => []) none)).leaves joined
    let fill := Session.smartFill (Run.emit (sheetHost.act 3) sheetHost.describe) ⟨4, 0, 6, 1⟩ ⟨0, 0, 3, 1⟩
      (some fun _ cell => .ok cell)
    ∃ answer target created after news,
      fill.outcome world = (.ok (some answer), { world with state := after, trace := news ++ world.trace }) ∧
      answer.toInt? = some ⟨0, 0, 6, 1⟩ ∧ world.state.PlayedOver ⟨true, true⟩ ⟨4, 0, 6, 1⟩ target created after ∧
      after.regions.map MergeRegion.cells = [⟨5, 1, 6, 1⟩, ⟨2, 1, 3, 1⟩] ∧
      after.value? ⟨0, 0⟩ = some (.number 7) ∧ after.value? ⟨2, 1⟩ = some (.text "joined") := by
  intro start first second joined world fill
  have begin : Reachable start := .created (.record []) {} [] rfl rfl
  have reachable : Reachable world := (((begin.acted 3 _).acted 3 _).acted 3 _).acted 3 _
  have alone : joined.feed.subscriptions = [] := List.isEmpty_iff.mp (by decide +kernel)
  have reads : world.feed.OnlyRead :=
    Feed.OnlyRead.subscribe (Feed.onlyRead_of_nil alone) sheetHost 2 "reader" fun _ => rfl
  have named : Range.toInt? ⟨4, 0, 6, 1⟩ = some ⟨4, 0, 6, 1⟩ := by decide +kernel
  have arrives : Range.toInt? ⟨0, 0, 3, 1⟩ = some ⟨0, 0, 3, 1⟩ := by decide +kernel
  have live : world.state.isDisposed = false := by decide +kernel
  have source : world.state.writableRange ⟨4, 0, 6, 1⟩ = .ok ⟨4, 0, 6, 1⟩ :=
    Sheet.writableRange_ok_iff.mpr ⟨live, named, ⟨by decide, by decide⟩, by decide +kernel⟩
  have destination : world.state.writableRange ⟨0, 0, 3, 1⟩ = .ok ⟨0, 0, 3, 1⟩ :=
    Sheet.writableRange_ok_iff.mpr ⟨live, arrives, ⟨by decide, by decide⟩, by decide +kernel⟩
  obtain ⟨rows, columns, sound, _⟩ := reachable.sound
  obtain ⟨given, target, aims, _⟩ := sound.exists_aims source destination rfl
  obtain ⟨_, quiet⟩ := (reachable.smartFill_tiles 3 _ _ (some fun _ cell => .ok cell)).2.2 _ _ _ _ aims fun _ _ => rfl
  obtain ⟨created, after, news, done, played⟩ := quiet reads
  have evaluated : (fill.outcome world).1.toOption.join.bind Range.toInt? = some ⟨0, 0, 6, 1⟩ ∧
      (fill.outcome world).2.state.regions.map MergeRegion.cells = [⟨5, 1, 6, 1⟩, ⟨2, 1, 3, 1⟩] ∧
      (fill.outcome world).2.state.value? ⟨0, 0⟩ = some (.number 7) ∧
      (fill.outcome world).2.state.value? ⟨2, 1⟩ = some (.text "joined") := by
    decide +kernel
  rw [show fill.outcome world = _ from done] at evaluated
  exact ⟨_, target, created, after, news, done, evaluated.1, played, evaluated.2⟩

end SheetWorld
end Spreadsheet
