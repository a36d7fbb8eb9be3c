import Spreadsheet.Proofs.Fill.Progression
import Spreadsheet.Proofs.Sheet.Refinement
import Spreadsheet.Proofs.Sheet.Symmetry

/-! Arithmetic progressions go on in every direction of a fill. A line of the source is passed from its far end to the gap,
which for a fill backward is against the order of its places; the places of the target go on from there either way. -/
namespace Spreadsheet

/-- The cell of a column at a row, or of a row at a column. -/
def Address.onLine (vertical : Bool) (line place : Int) : Address Int := (Address.mk place line).oriented vertical

/-- The places along the lines of a range. -/
def Range.places (vertical : Bool) (range : Range Int) : List Int :=
  span (range.oriented vertical).top (range.oriented vertical).bottom

/-- The lines of a range. -/
def Range.lines (vertical : Bool) (range : Range Int) : List Int :=
  span (range.oriented vertical).left (range.oriented vertical).right

theorem Range.contains_onLine {vertical : Bool} {range : Range Int} {line place : Int} :
    range.contains (.onLine vertical line place) = true ↔ place ∈ range.places vertical ∧ line ∈ range.lines vertical := by
  rw [← contains_oriented vertical, Address.onLine, Address.oriented_oriented, contains_iff, places, lines, mem_span,
    mem_span, and_assoc]

namespace FillDirection
variable {direction : FillDirection} {source target : Range Int} {cell : Address Int} {line place : Int} {index : Nat}

/-- Where the lines of a source start: at the end that is away from the gap. -/
def firstPlace (direction : FillDirection) (source : Range Int) : Int :=
  if direction.backward then (source.oriented direction.vertical).bottom else (source.oriented direction.vertical).top

/-- The place that is reached by a count of steps in the direction from the start of the lines of a source. -/
def reached (direction : FillDirection) (source : Range Int) (steps : Int) : Int :=
  if direction.backward then direction.firstPlace source - steps else direction.firstPlace source + steps

theorem reached_zero (direction : FillDirection) (source : Range Int) :
    direction.reached source (0 : Nat) = direction.firstPlace source := by
  unfold reached
  split <;> simp

theorem eq_onLine_of_run (found : (direction.run source line)[index]? = some cell) :
    cell = .onLine direction.vertical line (direction.reached source index) ∧
      direction.reached source index ∈ source.places direction.vertical := by
  obtain ⟨column, row⟩ := getElem?_run found
  have within := (mem_run.mp (List.mem_of_getElem? found)).2
  have same : (cell.oriented direction.vertical).row = direction.reached source index := by
    rw [row, reached, firstPlace]
    cases direction.backward <;> rfl
  rw [← same, ← column]
  exact ⟨(Address.oriented_oriented _ cell).symm, Range.mem_span.mpr within⟩

/-- The places of a target are reached by going on past the source. -/
theorem Adjoins.exists_reached (adjoins : direction.Adjoins source target) (proper : source.Proper) (line : Int)
    (within : place ∈ target.places direction.vertical) :
    ∃ index : Nat, direction.distance source (.onLine direction.vertical line place) = index ∧
      direction.reached source ((direction.run source line).length + index) = place := by
  rw [Range.places, Range.mem_span] at within
  unfold Range.Proper at proper
  rw [length_run]
  obtain ⟨vertical, backward⟩ := direction
  cases vertical <;> cases backward <;>
    simp only [Adjoins, FillDirection.distance, reached, firstPlace, length, Range.rows, Address.onLine, Address.oriented,
      Address.transpose, Range.oriented, Range.transpose, Bool.false_eq_true, ↓reduceIte] at *
  · exact ⟨(place - source.right - 1).toNat, by omega, by omega⟩
  · exact ⟨(source.left - place - 1).toNat, by omega, by omega⟩
  · exact ⟨(place - source.bottom - 1).toNat, by omega, by omega⟩
  · exact ⟨(source.top - place - 1).toNat, by omega, by omega⟩

/-- The places of what a fill returns are those of the source and of the target. -/
theorem Adjoins.mem_places_union (adjoins : direction.Adjoins source target) (proper : source.Proper)
    (order : target.Proper) : place ∈ (source.union target).places direction.vertical ↔
      place ∈ source.places direction.vertical ∨ place ∈ target.places direction.vertical := by
  unfold Range.Proper at proper order
  simp only [Range.places, Range.mem_span]
  obtain ⟨vertical, backward⟩ := direction
  cases vertical <;> cases backward <;>
    simp only [Adjoins, Range.union, Range.oriented, Range.transpose, Bool.false_eq_true, ↓reduceIte] at * <;>
    omega

end FillDirection

/-- On a line of a range the values are those of a progression, from place to place. -/
def Contents.Progresses (contents : Contents) (progression : Progression) (vertical : Bool) (range : Range Int)
    (line : Int) : Prop :=
  ∀ place ∈ range.places vertical, ∃ content, (contents (.onLine vertical line place)).value = some content ∧
    content.value.Counts progression.head (progression.value place)

/-- What comes of a progression on a line of a source: it goes through the source and the target, and what is made has the
style and the format of the cell away from the gap, and no rich text. -/
structure Sheet.GoesOn (before : Sheet) (progression : Progression) (direction : FillDirection) (source target : Range Int)
    (line : Int) (after : Sheet) : Prop where
  progresses : after.contents.Progresses progression direction.vertical (source.union target) line
  alike : ∀ place ∈ target.places direction.vertical, ∃ value,
    after.contents (.onLine direction.vertical line place) =
      { (before.contents (.onLine direction.vertical line (direction.firstPlace source))).kept with
        value := some value, richText := none }

/-- What a pattern makes is like its template, but for the value and the rich text. -/
theorem Holding.ofCell_templated (holding : Holding) (value : CellValue) :
    ofCell (FillPattern.templated holding.toCell value) =
      { holding.kept with value := some ⟨value, none⟩, richText := none } := by
  rw [FillPattern.templated, ofCell_tidy]
  simp only [toCell, Cell.tidy, Aspect.keep, content?_ofContent?, kept, Option.filter_filter, Bool.and_self]
  cases holding.format <;> rfl

namespace Sheet
variable {rows columns : Nat} {sheet : Sheet} {progression : Progression} {direction : FillDirection}
  {source target : Range Int} {line : Int} {cell : Address Int}

/-- A cell that holds a value is read with this value. -/
theorem Sound.exists_cell? (sound : sheet.Sound rows columns) {content : Content CellValue}
    (held : (sheet.contents cell).value = some content) :
    sheet.grid.cell? cell = some (sheet.grid.holding cell).toCell ∧
      ∃ given, (sheet.grid.holding cell).toCell.value = .present given ∧ given.value = content.value := by
  have occupied : (sheet.contents cell).isOccupied = true := by simp [Holding.isOccupied, held]
  obtain ⟨given, value, rfl⟩ := Option.map_eq_some_iff.mp held
  refine ⟨?_, given, ?_, rfl⟩
  · rw [Grid.cell?_eq, if_pos (Std.TreeSet.contains_iff_mem.mpr ((sound.mem_populated cell).mpr occupied))]
  · rw [Holding.toCell, value]
    rfl

/-- The cells of a line, from the far end to the gap, show the progression in the order of the fill. -/
theorem Sound.shows (sound : sheet.Sound rows columns)
    (progresses : sheet.contents.Progresses progression direction.vertical source line) :
    FillPattern.Shows (progression.countedFrom (direction.firstPlace source) direction.backward)
      ((direction.run source line).map sheet.grid.cell?) := by
  intro index entry place
  rw [List.getElem?_map, Option.map_eq_some_iff] at place
  obtain ⟨cell, found, rfl⟩ := place
  obtain ⟨rfl, within⟩ := FillDirection.eq_onLine_of_run found
  obtain ⟨content, held, counts⟩ := progresses _ within
  obtain ⟨read, given, present, same⟩ := sound.exists_cell? held
  refine ⟨_, given, read, present, ?_⟩
  rw [same, Progression.value_countedFrom]
  exact counts

section filling
variable (sound : sheet.Sound rows columns) (adjoins : direction.Adjoins source target) (proper : source.Proper)
  (several : 2 ≤ direction.length source)
  (progresses : sheet.contents.Progresses progression direction.vertical source line)
  (fits : ∀ place, place ∈ source.places direction.vertical ∨ place ∈ target.places direction.vertical →
    progression.Fits place)
include sound adjoins proper several progresses fits

/-- What a progression goes on with at a place of the target. -/
theorem Sound.exists_continuation {place : Int} (within : place ∈ target.places direction.vertical) :
    ∃ value, (Holding.ofCell ((sheet.continuation direction source (.onLine direction.vertical line place)).getD {})).plain =
        { (sheet.contents (.onLine direction.vertical line (direction.firstPlace source))).kept with
          value := some ⟨value, none⟩, richText := none } ∧
      value.Counts progression.head (progression.value place) := by
  -- Counted from the far end of the source, the place comes as many steps after its line as the cell is away from it.
  obtain ⟨index, distance, reached⟩ := adjoins.exists_reached proper line within
  have passed (step : Nat) (small : step < (direction.run source line).length) :
      progression.Fits (direction.reached source step) :=
    fits _ (.inl (FillDirection.eq_onLine_of_run (List.getElem?_eq_getElem small)).2)
  have goes : progression.Fits (direction.reached source ((direction.run source line).length + index)) :=
    reached.symm ▸ fits place (.inr within)
  have several : 2 ≤ (direction.run source line).length := by
    rw [FillDirection.length_run]
    omega
  have shows := sound.shows progresses
  rw [← List.length_map sheet.grid.cell?] at passed goes several reached
  obtain ⟨first, value, start, generated, counts⟩ := FillPattern.exists_generate_detect sheet.equality shows several
    (fun step small => Progression.fits_countedFrom.mpr (passed step small)) (Progression.fits_countedFrom.mpr goes)
  rw [Progression.value_countedFrom] at counts
  refine ⟨value, ?_, reached ▸ counts⟩
  have template : first = (sheet.grid.holding (.onLine direction.vertical line (direction.firstPlace source))).toCell := by
    rw [List.getElem?_map, Option.map_eq_some_iff] at start
    obtain ⟨cell, found, read⟩ := start
    obtain ⟨rfl, within⟩ := FillDirection.eq_onLine_of_run found
    obtain ⟨content, held, _⟩ := progresses _ within
    rw [FillDirection.reached_zero] at held read
    exact Option.some.inj (read.symm.trans (sound.exists_cell? held).1)
  have column : ((Address.onLine direction.vertical line place).oriented direction.vertical).column = line := by
    rw [Address.onLine, Address.oriented_oriented]
  rw [Sheet.continuation, ← FillDirection.run_source, column, distance, Int.toNat_natCast, generated, template]
  change (Holding.ofCell (FillPattern.templated _ value)).plain = _
  rw [Holding.ofCell_templated, contents, ← Holding.plain_kept]
  rfl

/-- Source cells in progression are continued in progression. -/
theorem Sound.goesOn (order : target.Proper) (crosses : line ∈ source.lines direction.vertical) {origin : Address Number} :
    sheet.GoesOn progression direction source target line
      (sheet.writtenAll (sheet.continued direction origin source target none)) := by
  have written := @contents_writtenAll_continued sheet direction origin source target adjoins
  have lines : line ∈ target.lines direction.vertical := by
    rwa [Range.lines, adjoins.lines.1, adjoins.lines.2]
  have made {place : Int} (within : place ∈ target.places direction.vertical) :=
    (written (.onLine direction.vertical line place)).trans (if_pos (Range.contains_onLine.mpr ⟨within, lines⟩))
  refine ⟨fun place either => ?_, fun place within => ?_⟩
  · by_cases within : place ∈ target.places direction.vertical
    · obtain ⟨value, same, counts⟩ :=
        sound.exists_continuation adjoins proper several progresses fits within
      exact ⟨⟨value, none⟩, by rw [made within, same], counts⟩
    · have inner := ((adjoins.mem_places_union proper order).mp either).resolve_right within
      rw [written, if_neg fun contains => within (Range.contains_onLine.mp contains).1]
      exact progresses place inner
  · obtain ⟨value, same, _⟩ := sound.exists_continuation adjoins proper several progresses fits within
    exact ⟨⟨value, none⟩, by rw [made within, same]⟩

end filling

end Sheet

namespace SheetWorld
variable {world : SheetWorld} {source destination : Range Number} {wide goal : Range Int}

/-- A fill from a source without regions inside goes on with the progressions on its lines, in whatever direction the
destination lies. Where this is inside the source nothing is filled. -/
theorem Reachable.smartFill_goesOn (reachable : Reachable world) (live : world.state.isDisposed = false)
    (reads : world.feed.OnlyRead) (fuel : Nat)
    (named : source.toInt? = some wide) (proper : wide.Proper) (within : world.state.area.containsRange wide = true)
    (arrives : destination.toInt? = some goal) (order : goal.Proper) (inside : world.state.area.containsRange goal = true)
    (free : ¬world.state.HasInside wide) :
    let fill := Session.smartFill (Run.emit (sheetHost.act fuel) sheetHost.describe) source destination none
    (FillDirection.of? wide goal = none → fill.outcome world = (.ok none, world)) ∧
      ∀ direction, FillDirection.of? wide goal = some direction → ∃ answer after news,
        fill.outcome world = (.ok (some answer), { world with state := after, trace := news ++ world.trace }) ∧
          answer.toInt? = some (wide.union (direction.strip wide goal)) ∧
          ∀ line ∈ wide.lines direction.vertical, ∀ progression, 2 ≤ direction.length wide →
            world.state.contents.Progresses progression direction.vertical wide line →
            (∀ place ∈ (wide.union (direction.strip wide goal)).places direction.vertical, progression.Fits place) →
            world.state.GoesOn progression direction wide (direction.strip wide goal) line after := by
  intro fill
  obtain ⟨rows, columns, sound, _⟩ := reachable.sound
  have first := Sheet.writableRange_ok_iff.mpr ⟨live, named, proper, within⟩
  constructor
  · intro none
    have idle : FillDirection.toward? source destination = .none := by
      rw [FillDirection.toward?, FillDirection.of?_of_named named arrives, none]
      rfl
    exact (Session.outcome_check_ok first).trans (by rw [idle]; rfl)
  · intro direction leads
    have fills := sound.bounded.fillsStrip first (Sheet.writableRange_ok_iff.mpr ⟨live, arrives, order, inside⟩) leads
    obtain ⟨_, aims, long, _⟩ := Sheet.writableRange_ok_iff.mp fills.second
    have adjoins := fills.adjoins sound.bounded
    obtain ⟨_, after, news, done, rfl, rfl⟩ :=
      Session.succeeds_smartFill_strip (Run.onlyTells_emit (sheetHost.act fuel) sheetHost.describe) reads sound fills free
    refine ⟨_, _, news, done, Range.toInt?_union named aims, ?_⟩
    intro line crosses progression several progresses fits
    exact sound.goesOn adjoins proper several progresses
      (fun place either => fits place ((adjoins.mem_places_union proper long).mpr either)) long crosses

/-- Numbers in a column and numbered texts in the next one go on upwards. The texts keep the width of the first number. -/
theorem smartFill_goesOn_upwards :
    let start : SheetWorld := { state := { rows := 10, columns := 8 } }
    let one := (sheetHost.act 3 (.request (.setValue ⟨4, 5⟩ (some (.number 1))))).leaves start
    let two := (sheetHost.act 3 (.request (.setValue ⟨5, 5⟩ (some (.number 3))))).leaves one
    let three := (sheetHost.act 3 (.request (.setValue ⟨4, 6⟩ (some (.text "Q10"))))).leaves two
    let world := (sheetHost.act 3 (.request (.setValue ⟨5, 6⟩ (some (.text "Q12"))))).leaves three
    let fill := Session.smartFill (Run.emit (sheetHost.act 3) sheetHost.describe) ⟨4, 5, 5, 6⟩ ⟨2, 5, 3, 6⟩ none
    ∃ answer after news,
      fill.outcome world = (.ok (some answer), { world with state := after, trace := news ++ world.trace }) ∧
        answer.toInt? = some ⟨2, 5, 5, 6⟩ ∧
        world.state.GoesOn ⟨none, -7, 2, by decide, by simp⟩ ⟨true, true⟩ ⟨4, 5, 5, 6⟩ ⟨2, 5, 3, 6⟩ 5 after ∧
        world.state.GoesOn ⟨some ['Q'], 2, 2, by decide, by rintro _ ⟨⟩; exact ⟨rfl, by rintro _ ⟨⟩; rfl⟩⟩ ⟨true, true⟩ ⟨4, 5, 5, 6⟩ ⟨2, 5, 3, 6⟩ 6 after ∧
        after.value? ⟨2, 5⟩ = some (.number (-3)) ∧ after.value? ⟨2, 6⟩ = some (.text "Q06") := by
  intro start one two three world fill
  have begin : Reachable start :=
    .created (.record [("rowCount", .number 10), ("columnCount", .number 8)]) {} [] rfl rfl
  have reachable : Reachable world := (((begin.acted 3 _).acted 3 _).acted 3 _).acted 3 _
  have reads : world.feed.OnlyRead := Feed.onlyRead_of_nil (List.isEmpty_iff.mp (by decide +kernel))
  have evaluated : world.state.isDisposed = false ∧ world.state.area = ⟨0, 0, 9, 7⟩ ∧ world.state.regions.isEmpty = true ∧
      (world.state.contents ⟨4, 5⟩).value = some ⟨.number 1, none⟩ ∧
      (world.state.contents ⟨5, 5⟩).value = some ⟨.number 3, none⟩ ∧
      (world.state.contents ⟨4, 6⟩).value = some ⟨.text "Q10", none⟩ ∧
      (world.state.contents ⟨5, 6⟩).value = some ⟨.text "Q12", none⟩ := by
    decide +kernel
  obtain ⟨live, area, regions, upper, lower, above, below⟩ := evaluated
  have free : ¬world.state.HasInside ⟨4, 5, 5, 6⟩ := by
    rintro ⟨region, listed, _⟩
    rw [List.isEmpty_iff.mp regions] at listed
    cases listed
  have named : Range.toInt? ⟨4, 5, 5, 6⟩ = some ⟨4, 5, 5, 6⟩ := by decide +kernel
  have arrives : Range.toInt? ⟨2, 5, 3, 6⟩ = some ⟨2, 5, 3, 6⟩ := by decide +kernel
  obtain ⟨answer, after, news, done, reached, goesOn⟩ :=
    (reachable.smartFill_goesOn live reads 3 named ⟨by decide, by decide⟩ (by rw [area]; decide) arrives
      ⟨by decide, by decide⟩ (by rw [area]; decide) free).2 ⟨true, true⟩ rfl
  have values : (fill.outcome world).2.state.value? ⟨2, 5⟩ = some (.number (-3)) ∧
      (fill.outcome world).2.state.value? ⟨2, 6⟩ = some (.text "Q06") := by
    decide +kernel
  rw [show fill.outcome world = _ from done] at values
  refine ⟨answer, after, news, done, reached, goesOn 5 (by decide) _ (by decide) ?_ ?_,
    goesOn 6 (by decide) _ (by decide) ?_ ?_, values⟩
  · intro place listed
    obtain ⟨low, high⟩ : 4 ≤ place ∧ place ≤ 5 := Range.mem_span.mp listed
    obtain rfl | rfl : place = 4 ∨ place = 5 := by omega
    · exact ⟨_, upper, .number (by decide +kernel)⟩
    · exact ⟨_, lower, .number (by decide +kernel)⟩
  · intro place listed
    obtain ⟨low, high⟩ : 2 ≤ place ∧ place ≤ 5 := Range.mem_span.mp listed
    dsimp only [Progression.Fits, Progression.value]
    exact ⟨by omega, nofun⟩
  · intro place listed
    obtain ⟨low, high⟩ : 4 ≤ place ∧ place ≤ 5 := Range.mem_span.mp listed
    obtain rfl | rfl : place = 4 ∨ place = 5 := by omega
    · exact ⟨_, above, .text (show Text.allDigits ['1', '0'] = true from rfl) rfl⟩
    · exact ⟨_, below, .text (show Text.allDigits ['1', '2'] = true from rfl) rfl⟩
  · intro place listed
    obtain ⟨low, high⟩ : 2 ≤ place ∧ place ≤ 5 := Range.mem_span.mp listed
    dsimp only [Progression.Fits, Progression.value]
    exact ⟨by omega, fun _ => by omega⟩

end SheetWorld
end Spreadsheet
