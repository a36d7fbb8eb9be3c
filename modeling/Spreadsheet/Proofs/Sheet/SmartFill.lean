import Spreadsheet.Proofs.Fill.Continuation
import Spreadsheet.Proofs.Sheet.Registering

/-! What a fill without a generator comes to if subscribers only read: the source goes on line by line in the target, the
regions inside it are copied along, and the rest of the sheet is as it was. -/
namespace Spreadsheet

namespace Sheet
variable {rows columns : Nat} {sheet : Sheet} {cells : List (Address Int × Except SheetError (Option Cell))}

/-- The sheet after cells have been put in a batch of their own. -/
def writtenAll (sheet : Sheet) (cells : List (Address Int × Except SheetError (Option Cell))) : Sheet :=
  (sheet.batchOpened.putAll cells).2.batchClosed

theorem isDisposed_writtenAll : (sheet.writtenAll cells).isDisposed = sheet.isDisposed :=
  @isDisposed_putAll sheet.batchOpened cells

theorem merges_writtenAll : (sheet.writtenAll cells).merges = sheet.merges :=
  @merges_putAll sheet.batchOpened cells

theorem Sound.putAll (sound : sheet.Sound rows columns)
    (within : ∀ made ∈ cells, (areaOf rows columns).contains made.1 = true) : (sheet.putAll cells).2.Sound rows columns := by
  induction cells generalizing sheet with
  | nil => exact sound
  | cons first rest ih =>
    obtain ⟨address, made⟩ := first
    cases made with
    | error error => exact sound
    | ok cell =>
      have inside := within _ List.mem_cons_self
      rw [← sound.area_eq] at inside
      exact ih (sound.edited (putEdit_fits inside cell)) fun made member => within made (List.mem_cons_of_mem _ member)

theorem Sound.writtenAll (sound : sheet.Sound rows columns)
    (within : ∀ made ∈ cells, (areaOf rows columns).contains made.1 = true) : (sheet.writtenAll cells).Sound rows columns :=
  ((sound.act .openBatch).putAll within).act .closeBatch

theorem contents_writtenAll (made : Address Int → Option Cell) (agree : ∀ pair ∈ cells, pair.2 = .ok (made pair.1)) :
    (sheet.writtenAll cells).contents = fun cell =>
      if cell ∈ cells.map Prod.fst then (Holding.ofCell ((made cell).getD {})).plain else sheet.contents cell := by
  obtain ⟨after, done, contents⟩ := sheet.batchOpened.putAll_eq made agree
  unfold Sheet.writtenAll
  rw [done]
  exact contents

/-- In its target a fill writes the continuation of the source, and nothing elsewhere. -/
theorem contents_writtenAll_continued {direction : FillDirection} {origin : Address Number} {source target : Range Int}
    (adjoins : direction.Adjoins source target) (cell : Address Int) :
    (sheet.writtenAll (sheet.continued direction origin source target none)).contents cell =
      if target.contains cell = true then (Holding.ofCell ((sheet.continuation direction source cell).getD {})).plain
      else sheet.contents cell := by
  rw [contents_writtenAll (sheet.continuation direction source) fun _ => made_of_mem_continued adjoins]
  simp only [mem_continued adjoins]

theorem putAll_ok (made : ∀ pair ∈ cells, ∃ cell, pair.2 = .ok cell) : (sheet.putAll cells).1 = .ok () := by
  induction cells generalizing sheet with
  | nil => rfl
  | cons first rest ih =>
    obtain ⟨address, result⟩ := first
    obtain ⟨cell, rfl⟩ := made _ List.mem_cons_self
    exact ih fun pair member => made pair (List.mem_cons_of_mem _ member)

/-- Without a generator a fill makes every cell, wherever it goes. -/
theorem exists_made_of_mem_continued {direction : FillDirection} {origin : Address Number} {source target : Range Int}
    {made : Address Int × Except SheetError (Option Cell)}
    (member : made ∈ sheet.continued direction origin source target none) : ∃ cell, made.2 = .ok cell := by
  unfold continued at member
  obtain ⟨⟨line, places⟩, _, inside⟩ := List.mem_flatMap.mp member
  obtain ⟨⟨address, index⟩, _, rfl⟩ := List.mem_map.mp inside
  exact ⟨_, rfl⟩

theorem Bounded.isSmall_area (bounded : sheet.Bounded) : sheet.area.IsSmall := by
  have rows := bounded.rows
  have columns := bounded.columns
  simp only [area, maxRows, maxColumns, Range.IsSmall] at *
  omega

/-- The target that a fill works out from its strip. -/
def fillTarget (sheet : Sheet) (direction : FillDirection) (source strip : Range Number) (wide narrow : Range Int) :
    Range Number :=
  ((if (sheet.merges.inside source).isEmpty then none else direction.farEnd? sheet.area wide narrow).map fun farEnd =>
    direction.endingAt strip (.ofInt farEnd)).getD strip

/-- A fill without a generator may write the strip that it works out from its arguments. -/
structure FillsStrip (sheet : Sheet) (direction : FillDirection) (source destination strip : Range Number)
    (wide narrow : Range Int) : Prop where
  first : sheet.writableRange source = .ok wide
  leads : FillDirection.toward? source destination = some (direction, strip)
  second : sheet.writableRange strip = .ok narrow

/-- A fill passes its checks: it goes from the source in a direction, and the target that it works out may be written. -/
structure Aims (sheet : Sheet) (direction : FillDirection) (source destination target : Range Number)
    (wide goal : Range Int) : Prop where
  first : sheet.writableRange source = .ok wide
  leads : ∃ strip narrow, FillDirection.toward? source destination = some (direction, strip) ∧
    strip.checked = .ok narrow ∧ sheet.fillTarget direction source strip wide narrow = target
  second : sheet.writableRange target = .ok goal

theorem FillsStrip.aims {direction : FillDirection} {source destination strip target : Range Number}
    {wide narrow goal : Range Int} (fills : sheet.FillsStrip direction source destination strip wide narrow)
    (worked : sheet.fillTarget direction source strip wide narrow = target) (last : sheet.writableRange target = .ok goal) :
    sheet.Aims direction source destination target wide goal :=
  ⟨fills.first, ⟨strip, narrow, fills.leads, checked_of_writableRange fills.second, worked⟩, last⟩

/-- If source and destination may be written, the strip between them may be. -/
theorem Bounded.fillsStrip (bounded : sheet.Bounded) {source destination : Range Number} {wide goal : Range Int}
    {direction : FillDirection} (first : sheet.writableRange source = .ok wide)
    (second : sheet.writableRange destination = .ok goal) (leads : FillDirection.of? wide goal = some direction) :
    sheet.FillsStrip direction source destination (direction.strip source destination) wide
      (direction.strip wide goal) := by
  obtain ⟨live, named, proper, within⟩ := writableRange_ok_iff.mp first
  obtain ⟨_, arrives, _, inside⟩ := writableRange_ok_iff.mp second
  have targets := FillDirection.targets_strip (FillDirection.leads_of_of? leads) proper within inside
  have strip : (direction.strip source destination).toInt? = some (direction.strip wide goal) :=
    FillDirection.toInt?_strip named arrives (bounded.isSmall within proper)
  refine ⟨first, ?_, writableRange_ok_iff.mpr ⟨live, strip, targets.proper, targets.within⟩⟩
  rw [FillDirection.toward?, FillDirection.of?_of_named named arrives, leads]
  rfl

/-- Made of whole spans of the source, or ended by the edge of the sheet. -/
def HasWholeSpans (sheet : Sheet) (direction : FillDirection) (source target : Range Int) : Prop :=
  direction.length source ∣ direction.length target ∨ direction.AtEdge sheet.area target

/-- Some region lies inside the range. -/
def HasInside (sheet : Sheet) (source : Range Int) : Prop :=
  ∃ region ∈ sheet.regions, source.containsRange region.cells = true

theorem Sound.exists_fillTarget (sound : sheet.Sound rows columns) {direction : FillDirection} {source strip : Range Number}
    {wide goal narrow : Range Int} (named : source.toInt? = some wide) (proper : wide.Proper)
    (arrives : strip.toInt? = some narrow) (targets : direction.Targets sheet.area wide goal narrow) :
    ∃ target, (sheet.fillTarget direction source strip wide narrow).toInt? = some target ∧
      direction.Targets sheet.area wide goal target ∧ (sheet.HasInside wide → sheet.HasWholeSpans direction wide target) := by
  unfold fillTarget
  by_cases empty : (sheet.merges.inside source).isEmpty = true
  · refine ⟨narrow, by rwa [if_pos empty], targets, ?_⟩
    rintro ⟨region, listed, inside⟩
    have member := (sound.merges.mem_inside named).mpr ⟨listed, inside⟩
    rw [List.isEmpty_iff.mp empty] at member
    cases member
  · have small := sound.bounded.isSmall_area
    obtain ⟨stretched, whole⟩ := targets.stretched proper small
    rw [if_neg empty]
    exact ⟨_, FillDirection.toInt?_stretched arrives (small.of_containsRange stretched.within stretched.proper), stretched,
      fun _ => whole⟩

/-- A fill that has a direction and arguments in the sheet passes its checks. -/
theorem Sound.exists_aims (sound : sheet.Sound rows columns) {source destination : Range Number} {wide goal : Range Int}
    {direction : FillDirection} (first : sheet.writableRange source = .ok wide)
    (second : sheet.writableRange destination = .ok goal) (leads : FillDirection.of? wide goal = some direction) :
    ∃ given target, sheet.Aims direction source destination given wide target ∧
      direction.Targets sheet.area wide goal target ∧ (sheet.HasInside wide → sheet.HasWholeSpans direction wide target) := by
  obtain ⟨live, named, proper, within⟩ := writableRange_ok_iff.mp first
  obtain ⟨_, _, _, inside⟩ := writableRange_ok_iff.mp second
  have fills := sound.bounded.fillsStrip first second leads
  obtain ⟨_, strip, _⟩ := writableRange_ok_iff.mp fills.second
  have targets := FillDirection.targets_strip (FillDirection.leads_of_of? leads) proper within inside
  obtain ⟨target, reached, found, whole⟩ := sound.exists_fillTarget named proper strip targets
  exact ⟨_, target, fills.aims rfl (writableRange_ok_iff.mpr ⟨live, reached, found.proper, found.within⟩), found, whole⟩

/-- What comes of a fill: its target and where this lies, what every cell holds, and which regions there are. Only covered
cells of new regions hold less than what has been made for them. -/
structure Fills (before : Sheet) (direction : FillDirection) (source destination target : Range Int)
    (created : List MergeRegion) (after : Sheet) : Prop where
  targets : direction.Targets before.area source destination target
  apart : target.Apart source
  whole : before.HasInside source → before.HasWholeSpans direction source target
  outside : ∀ cell, target.contains cell = false → after.contents cell = before.contents cell
  regions : ∃ kept, after.regions = kept ++ created ∧ kept.Sublist before.regions ∧
    ∀ region ∈ before.regions, region.cells.Apart target → region ∈ kept
  idle : ¬before.HasInside source → after.regions = before.regions
  inner : ∀ region ∈ before.regions, source.containsRange region.cells = true → region ∈ after.regions
  inside : ∀ region ∈ created, target.containsRange region.cells = true
  continued : ∀ cell, target.contains cell = true → ¬IsCovered created cell →
    after.contents cell = (Holding.ofCell ((before.continuation direction source cell).getD {})).plain
  covered : ∀ cell, IsCovered created cell →
    after.contents cell = (Holding.ofCell ((before.continuation direction source cell).getD {})).plain.withoutContent

/-- Cells that go on from the source in its target, and copies of regions there, are what a fill comes to. -/
theorem Replicates.fills {direction : FillDirection} {origin : Address Number} {source destination target : Range Int}
    {created : List MergeRegion} {after : Sheet}
    (replicates : Replicates rows columns (sheet.writtenAll (sheet.continued direction origin source target none)) source
      target created after)
    (targets : direction.Targets sheet.area source destination target)
    (whole : sheet.HasInside source → sheet.HasWholeSpans direction source target) :
    sheet.Fills direction source destination target created after := by
  obtain ⟨cleared, sublist, kept, _, registers⟩ := replicates.registers
  have merges : (sheet.writtenAll (sheet.continued direction origin source target none)).regions = sheet.regions :=
    congrArg MergeRegistry.regions merges_writtenAll
  have apart := targets.adjoins.apart
  have written := @contents_writtenAll_continued sheet direction origin source target targets.adjoins
  rw [merges] at sublist kept
  refine ⟨targets, apart, whole, ?_, ⟨cleared.regions, registers.regions, sublist, kept⟩, ?_, ?_, replicates.inside, ?_, ?_⟩
  · intro cell outside
    rw [replicates.outside outside, written, if_neg (by simp [outside])]
  · intro none
    rw [replicates.idle, merges]
    intro region member
    rw [merges] at member
    rw [← Bool.not_eq_true]
    exact fun inside => none ⟨region, member, inside⟩
  · intro region member inside
    rw [registers.regions]
    refine List.mem_append_left _ (kept region member ?_)
    exact fun cell both => apart cell ⟨both.2, Range.contains_trans inside both.1⟩
  · intro cell inside free
    rw [replicates.other free, written, if_pos inside]
  · intro cell covered
    rw [replicates.covered covered, written, if_pos (covered.contains replicates.inside)]

end Sheet

namespace Session
open Run Sheet
variable {rows columns : Nat} {publish : Publisher} {world : SheetWorld}
  {cells : List (Address Int × Except SheetError (Option Cell))}
variable (tells : OnlyTells publish)
include tells

/-- Cells that are all made are written. -/
theorem succeeds_writeAll (reads : world.feed.OnlyRead) (live : world.state.isDisposed = false)
    (made : ∀ pair ∈ cells, ∃ cell, pair.2 = .ok cell) :
    Succeeds (writeAll publish cells) world fun _ state => state = world.state.writtenAll cells := by
  have done : world.state.batchOpened.putAll cells = (.ok (), (world.state.batchOpened.putAll cells).2) :=
    Prod.ext (putAll_ok made) rfl
  let next : SheetWorld := { world with state := world.state.writtenAll cells }
  have readsNext : next.feed.OnlyRead := reads
  refine Succeeds.of_outcome (outcome_writeAll cells live done) ?_
  refine Succeeds.bind (succeeds_forM tells readsNext _) ?_
  rintro _ _ news rfl
  exact (succeeds_lift rfl).mono fun _ _ same => same.2

/-- The last part of a fill that makes all of its cells: these, and then the regions. -/
theorem succeeds_carryOn (reads : world.feed.OnlyRead) (sound : world.state.Sound rows columns)
    {source target : Range Number} {wide goal : Range Int} (first : world.state.writableRange source = .ok wide)
    (second : world.state.writableRange target = .ok goal) {direction : FillDirection} {origin : Address Number}
    {generator : Option Generator}
    (made : ∀ pair ∈ world.state.continued direction origin wide goal generator, ∃ cell, pair.2 = .ok cell)
    (answer : Option (Range Number)) :
    Succeeds (writeAll publish (world.state.continued direction origin wide goal generator) >>= fun _ =>
        replicateMerges publish source target direction.vertical >>= fun _ => pure answer) world
      fun found state => found = answer ∧ ∃ created, Replicates rows columns
        (world.state.writtenAll (world.state.continued direction origin wide goal generator)) wide goal created state ∧
        ∀ region ∈ created, ∃ origin ∈ world.state.regions, wide.containsRange origin.cells = true ∧
          Tiling.IsReplica wide goal direction.vertical origin.cells region.cells := by
  obtain ⟨live, _, proper, within⟩ := writableRange_ok_iff.mp first
  obtain ⟨_, _, order, inside⟩ := writableRange_ok_iff.mp second
  refine Succeeds.bind (succeeds_writeAll tells reads live made) ?_
  rintro _ _ news rfl
  let next : SheetWorld :=
    { world with
      state := world.state.writtenAll (world.state.continued direction origin wide goal generator)
      trace := news ++ world.trace }
  have readsNext : next.feed.OnlyRead := reads
  have soundNext : next.state.Sound rows columns := sound.writtenAll fun made member =>
    Range.contains_trans (sound.area_eq ▸ inside) (contains_of_mem_continued member)
  refine Succeeds.bind (succeeds_replicateMerges tells readsNext soundNext (isDisposed_writtenAll.trans live)
    (checked_of_writableRange first) (checked_of_writableRange second) (sound.bounded.isSmall within proper)
    (sound.bounded.isSmall inside order) direction.vertical) ?_
  rintro created state news ⟨replicates, copied⟩
  rw [show next.state.regions = world.state.regions from congrArg MergeRegistry.regions merges_writtenAll] at copied
  exact succeeds_pure ⟨rfl, created, replicates, copied⟩

omit tells in
/-- The first part of a fill: its checks, which find where it goes. -/
theorem outcome_smartFill {source destination target : Range Number} {wide goal : Range Int} {direction : FillDirection}
    {generator : Option Generator} (aims : world.state.Aims direction source destination target wide goal) :
    (smartFill publish source destination generator).outcome world =
      (writeAll publish (world.state.continued direction (direction.origin source) wide goal generator) >>= fun _ =>
        replicateMerges publish source target direction.vertical >>= fun _ => pure (some (source.union target))).outcome
        world := by
  obtain ⟨first, ⟨strip, narrow, leads, second, rfl⟩, third⟩ := aims
  refine (outcome_check_ok first).trans ?_
  rw [leads]
  refine (outcome_bind_ok ((outcome_lift _).trans (by rw [second]))).trans ?_
  exact (outcome_bind_ok outcome_sheet).trans (outcome_check_ok third)

/-- A fill that has a direction and arguments in the sheet succeeds. -/
theorem succeeds_smartFill (reads : world.feed.OnlyRead) (sound : world.state.Sound rows columns)
    {source destination : Range Number} {wide goal : Range Int} (first : world.state.writableRange source = .ok wide)
    (second : world.state.writableRange destination = .ok goal) {direction : FillDirection}
    (leads : FillDirection.of? wide goal = some direction) :
    Succeeds (smartFill publish source destination none) world fun found state => ∃ answer target created,
      found = some answer ∧ answer.toInt? = some (wide.union target) ∧
        world.state.Fills direction wide goal target created state := by
  obtain ⟨given, target, aims, targets, whole⟩ := sound.exists_aims first second leads
  obtain ⟨_, named, _⟩ := writableRange_ok_iff.mp first
  obtain ⟨_, reached, _⟩ := writableRange_ok_iff.mp aims.second
  refine Succeeds.of_outcome (outcome_smartFill aims) ?_
  refine (succeeds_carryOn tells reads sound first aims.second (fun _ => exists_made_of_mem_continued) _).mono ?_
  rintro _ state ⟨rfl, created, replicates, _⟩
  exact ⟨_, target, created, rfl, Range.toInt?_union named reached, replicates.fills targets whole⟩

end Session

namespace SheetWorld
variable {world : SheetWorld} {source destination : Range Number} {wide goal : Range Int}

/-- A fill toward a destination inside the source does nothing at all. Toward any other destination the source goes on in
the direction of the destination, and nothing else changes. -/
theorem Reachable.smartFill_fills (reachable : Reachable world) (live : world.state.isDisposed = false)
    (reads : world.feed.OnlyRead) (fuel : Nat)
    (named : source.toInt? = some wide) (proper : wide.Proper) (within : world.state.area.containsRange wide = true)
    (arrives : destination.toInt? = some goal) (order : goal.Proper) (inside : world.state.area.containsRange goal = true) :
    let fill := Session.smartFill (Run.emit (sheetHost.act fuel) sheetHost.describe) source destination none
    (wide.containsRange goal = true → fill.outcome world = (.ok none, world)) ∧
      (wide.containsRange goal = false → ∃ direction answer target created after news,
        FillDirection.of? wide goal = some direction ∧
          fill.outcome world = (.ok (some answer), { world with state := after, trace := news ++ world.trace }) ∧
          answer.toInt? = some (wide.union target) ∧ world.state.Fills direction wide goal target created after) := by
  intro fill
  obtain ⟨rows, columns, sound, _⟩ := reachable.sound
  have first := Sheet.writableRange_ok_iff.mpr ⟨live, named, proper, within⟩
  have second := Sheet.writableRange_ok_iff.mpr ⟨live, arrives, order, inside⟩
  constructor
  · intro inner
    have idle : FillDirection.toward? source destination = none := by
      rw [FillDirection.toward?, FillDirection.of?_of_named named arrives, FillDirection.of?_eq_none_iff.mpr inner]
      rfl
    exact (Session.outcome_check_ok first).trans (by rw [idle]; rfl)
  · intro outer
    cases leads : FillDirection.of? wide goal with
    | none => simp [FillDirection.of?_eq_none_iff.mp leads] at outer
    | some direction =>
      obtain ⟨_, after, news, done, answer, target, created, rfl, reached, fills⟩ :=
        Session.succeeds_smartFill (Run.onlyTells_emit _ _) reads sound first second leads
      exact ⟨direction, answer, target, created, after, news, rfl, done, reached, fills⟩

/-- Two numbers beside a region go on downwards. The destination has three rows; the target has four, which are two
spans of the source. -/
theorem smartFill_fills_with_reader :
    let start : SheetWorld := { state := { rows := maxRows, columns := maxColumns } }
    let first := (sheetHost.act 3 (.request (.setValue ⟨0, 0⟩ (some (.number 1))))).leaves start
    let second := (sheetHost.act 3 (.request (.setValue ⟨1, 0⟩ (some (.number 3))))).leaves first
    let joined := (sheetHost.act 3 (.request (.merge ⟨0, 1, 1, 1⟩))).leaves second
    let world := (sheetHost.act 3 (.subscribe "reader" (fun _ => []) none)).leaves joined
    let fill := Session.smartFill (Run.emit (sheetHost.act 3) sheetHost.describe) ⟨0, 0, 1, 1⟩ ⟨2, 0, 4, 1⟩ none
    ∃ direction answer target created after news, FillDirection.of? ⟨0, 0, 1, 1⟩ ⟨2, 0, 4, 1⟩ = some direction ∧
      fill.outcome world = (.ok (some answer), { world with state := after, trace := news ++ world.trace }) ∧
      answer.toInt? = some (Range.union ⟨0, 0, 1, 1⟩ target) ∧
      world.state.Fills direction ⟨0, 0, 1, 1⟩ ⟨2, 0, 4, 1⟩ target created after ∧
      answer.toInt? = some ⟨0, 0, 5, 1⟩ ∧ after.value? ⟨5, 0⟩ = some (.number 11) := by
  intro start first second joined world fill
  have begin : Reachable start := .created (.record []) {} [] rfl rfl
  have reachable : Reachable world := (((begin.acted 3 _).acted 3 _).acted 3 _).acted 3 _
  have alone : joined.feed.subscriptions = [] := List.isEmpty_iff.mp (by decide +kernel)
  have reads : world.feed.OnlyRead :=
    Feed.OnlyRead.subscribe (Feed.onlyRead_of_nil alone) sheetHost 2 "reader" fun _ => rfl
  have named : Range.toInt? ⟨0, 0, 1, 1⟩ = some ⟨0, 0, 1, 1⟩ := by decide +kernel
  have arrives : Range.toInt? ⟨2, 0, 4, 1⟩ = some ⟨2, 0, 4, 1⟩ := by decide +kernel
  obtain ⟨direction, answer, target, created, after, news, leads, done, reached, fills⟩ :=
    (reachable.smartFill_fills (by decide +kernel) reads 3 named ⟨by decide, by decide⟩ (by decide +kernel)
      arrives ⟨by decide, by decide⟩ (by decide +kernel)).2 (by decide)
  have evaluated : (fill.outcome world).1.toOption.join.bind Range.toInt? = some ⟨0, 0, 5, 1⟩ ∧
      (fill.outcome world).2.state.value? ⟨5, 0⟩ = some (.number 11) := by decide +kernel
  change fill.outcome world = _ at done
  generalize fill.outcome world = outcome at done evaluated ⊢
  subst done
  exact ⟨direction, answer, target, created, after, news, leads, rfl, reached, fills, evaluated⟩

end SheetWorld
end Spreadsheet
