import Spreadsheet.Proofs.Number.Counts
import Spreadsheet.Proofs.Sheet.RangeReading
import Spreadsheet.Sheet.Builder

/-! First contents of a sheet. An input stands in the column of its index and in the row that the row calls and the
skipped rows before it make up, unless it is empty. This is also the order of the cells in the sheet, so that no two of
them meet. -/
namespace Spreadsheet
attribute [local instance (high)] instPowNat

namespace SheetBuilder

def Step.isRow : Step → Bool
  | row _ => true
  | skip _ => false

/-- How many rows a step leaves empty. -/
def Step.skipped : Step → Int
  | row _ => 0
  | skip count => count.toInt?.getD 0

/-- The row after some steps: each row call takes one, and the others are skipped. -/
def rowAfter (steps : List Step) : Int := steps.countP Step.isRow + (steps.map Step.skipped).sum

/-- Rows are skipped by whole counts. -/
def Counted (steps : List Step) : Prop :=
  ∀ count, .skip count ∈ steps → ∃ number : Nat, count.toInt? = some (number : Int)

/-- The inputs of a row call with their places. -/
def rowGiven (row : Int) (inputs : List RowInput) : List (Address Int × RowInput) :=
  inputs.zipIdx.map fun (input, column) => (⟨row, column⟩, input)

/-- The inputs of steps with their places, from a row on, in the order in which they are given. -/
def given : Int → List Step → List (Address Int × RowInput)
  | _, [] => []
  | top, .row inputs :: steps => rowGiven top inputs ++ given (top + 1) steps
  | top, .skip count :: steps => given (top + (Step.skip count).skipped) steps

/-- Inputs that are not empty. -/
def occupied (entries : List (Address Int × RowInput)) : List (Address Int × RowInput) :=
  entries.filter (!·.2.toCell.isEmpty)

variable {steps : List Step} {top : Int} {address : Address Int} {input : RowInput} {inputs : List RowInput}
  {builder : SheetBuilder} {count : Number}

theorem rowAfter_row (inputs : List RowInput) (steps : List Step) :
    rowAfter (.row inputs :: steps) = 1 + rowAfter steps := by
  simp only [rowAfter, List.countP_cons_of_pos (p := Step.isRow) (a := .row inputs) rfl, List.map_cons, List.sum_cons,
    Step.skipped]
  omega

theorem rowAfter_skip (count : Number) (steps : List Step) :
    rowAfter (.skip count :: steps) = (Step.skip count).skipped + rowAfter steps := by
  simp only [rowAfter, List.countP_cons_of_neg (p := Step.isRow) (a := .skip count) Bool.false_ne_true, List.map_cons,
    List.sum_cons]
  omega

theorem mem_rowGiven : (address, input) ∈ rowGiven top inputs ↔ ∃ column : Nat, inputs[column]? = some input ∧
    address = ⟨top, column⟩ := by
  simp only [rowGiven, List.mem_map, Prod.mk.injEq, Prod.exists, List.mem_zipIdx_iff_getElem?]
  constructor
  · rintro ⟨_, column, found, rfl, rfl⟩
    exact ⟨column, found, rfl⟩
  · rintro ⟨column, found, rfl⟩
    exact ⟨_, column, found, rfl, rfl⟩

/-- An input is given in the row that the steps before it make up, and in the column of its index. -/
theorem mem_given : (address, input) ∈ given top steps ↔ ∃ before inputs after, ∃ column : Nat,
    steps = before ++ .row inputs :: after ∧ inputs[column]? = some input ∧
      address = ⟨top + rowAfter before, column⟩ := by
  induction steps generalizing top with
  | nil => simp [given]
  | cons step steps ih =>
    -- The row call is the first step, or it comes later and the first step only moves it down.
    have later (height : Int) (moves : ∀ before, rowAfter (step :: before) = height + rowAfter before) :
        (address, input) ∈ given (top + height) steps ↔ ∃ before inputs after, ∃ column : Nat,
          steps = before ++ .row inputs :: after ∧ inputs[column]? = some input ∧
            address = ⟨top + rowAfter (step :: before), column⟩ := by
      simp only [ih, moves, Int.add_assoc]
    cases step with
    | row first =>
      rw [given, List.mem_append, mem_rowGiven, later 1 fun before => rowAfter_row first before]
      constructor
      · rintro (⟨column, found, rfl⟩ | ⟨before, inputs, after, column, rfl, found, rfl⟩)
        · exact ⟨[], first, steps, column, rfl, found, by simp [rowAfter]⟩
        · exact ⟨.row first :: before, inputs, after, column, rfl, found, rfl⟩
      · rintro ⟨before, inputs, after, column, parts, found, rfl⟩
        cases before with
        | nil =>
          cases parts
          exact .inl ⟨column, found, by simp [rowAfter]⟩
        | cons start before =>
          cases parts
          exact .inr ⟨before, inputs, after, column, rfl, found, rfl⟩
    | skip count =>
      rw [given, later _ fun before => rowAfter_skip count before]
      constructor
      · rintro ⟨before, inputs, after, column, rfl, found, rfl⟩
        exact ⟨.skip count :: before, inputs, after, column, rfl, found, rfl⟩
      · rintro ⟨before, inputs, after, column, parts, found, rfl⟩
        cases before with
        | nil => cases parts
        | cons start before =>
          cases parts
          exact ⟨before, inputs, after, column, rfl, found, rfl⟩

theorem Counted.skipped (counted : Counted (.skip count :: steps)) : ∃ number : Nat,
    count.toInt? = some (number : Int) ∧ (Step.skip count).skipped = number := by
  obtain ⟨number, whole⟩ := counted count List.mem_cons_self
  exact ⟨number, whole, by simp [Step.skipped, whole]⟩

theorem Counted.tail {step : Step} (counted : Counted (step :: steps)) : Counted steps :=
  fun count member => counted count (List.mem_cons_of_mem _ member)

/-- No input stands above the row that the steps start from. -/
theorem top_le_of_mem_given (counted : Counted steps) {entry : Address Int × RowInput}
    (member : entry ∈ given top steps) : top ≤ entry.1.row := by
  induction steps generalizing top with
  | nil => cases member
  | cons step steps ih =>
    cases step with
    | row inputs =>
      rcases List.mem_append.mp member with here | later
      · obtain ⟨column, -, same⟩ := mem_rowGiven.mp here
        exact (congrArg Address.row same).ge
      · have bound := ih counted.tail later
        omega
    | skip count =>
      obtain ⟨number, -, skipped⟩ := counted.skipped
      have bound := ih counted.tail member
      omega

/-- The inputs are given row by row. -/
theorem pairwise_given (counted : Counted steps) : ((given top steps).map Prod.fst).Pairwise Address.Precedes := by
  induction steps generalizing top with
  | nil => exact .nil
  | cons step steps ih =>
    cases step with
    | row inputs =>
      have columns : (inputs.zipIdx.map Prod.snd).Pairwise (· < ·) := by
        rw [List.zipIdx_map_snd]
        exact List.pairwise_lt_range'
      rw [given, List.map_append, List.pairwise_append]
      refine ⟨?_, ih counted.tail, ?_⟩
      · rw [List.pairwise_map] at columns
        rw [rowGiven, List.map_map, List.pairwise_map]
        exact columns.imp fun less => .inr ⟨rfl, Int.ofNat_lt.mpr less⟩
      · intro first inFirst second inSecond
        obtain ⟨entry, here, rfl⟩ := List.mem_map.mp inFirst
        obtain ⟨other, later, rfl⟩ := List.mem_map.mp inSecond
        obtain ⟨column, -, same⟩ := mem_rowGiven.mp here
        have bound := top_le_of_mem_given counted.tail later
        have row := congrArg Address.row same
        exact .inl (by simp only at row; omega)
    | skip count => exact ih counted.tail

/-- A cell that is placed is the one of an input, at the place that its address names. -/
def Places (entry : Address Number × Cell) (given : Address Int × RowInput) : Prop :=
  entry.1.toInt? = some given.1 ∧ entry.2 = given.2.toCell

theorem occupied_append (first second : List (Address Int × RowInput)) :
    occupied (first ++ second) = occupied first ++ occupied second := List.filter_append ..

/-- The inputs of a row are placed one after another. -/
theorem foldlM_place (pairs : List (RowInput × Nat)) (nonneg : 0 ≤ top)
    (row : builder.nextRow.toInt? = some top ∨ ∀ pair ∈ pairs, pair.1.toCell.isEmpty = true)
    (small : ∀ pair ∈ pairs, pair.1.toCell.isEmpty = false → pair.2 < 2 ^ (53 : Nat)) :
    ∃ entries, pairs.foldlM place builder = .ok { builder with placed := entries.reverse ++ builder.placed } ∧
      List.Forall₂ Places entries (occupied (pairs.map fun (input, column) => (⟨top, column⟩, input))) := by
  induction pairs generalizing builder with
  | nil => exact ⟨[], rfl, .nil⟩
  | cons pair pairs ih =>
    have remaining (later : SheetBuilder) (same : later.nextRow = builder.nextRow) :=
      @ih later (same ▸ row.imp_right fun empty => fun pair member => empty pair (List.mem_cons_of_mem _ member))
        fun pair member => small pair (List.mem_cons_of_mem _ member)
    rw [List.foldlM_cons]
    cases empty : pair.1.toCell.isEmpty with
    | true =>
      obtain ⟨entries, done, places⟩ := remaining builder rfl
      refine ⟨entries, bind_eq_ok_iff.mpr ⟨builder, ?_, done⟩, ?_⟩
      · simp only [place, empty, if_true]
        rfl
      · simpa [occupied, empty] using places
    | false =>
      have exact : builder.nextRow.toInt? = some top :=
        row.resolve_right fun all => Bool.false_ne_true (empty.symm.trans (all pair List.mem_cons_self))
      have column := Number.toInt?_ofNat (small pair List.mem_cons_self empty)
      have named : (⟨builder.nextRow, .ofNat pair.2⟩ : Address Number).toInt? = some ⟨top, pair.2⟩ :=
        Address.toInt?_eq_some_iff.mpr ⟨exact, column⟩
      have passed := Address.checked_ok_iff.mpr ⟨named, nonneg, Int.natCast_nonneg pair.2⟩
      obtain ⟨entries, done, places⟩ := remaining
        { builder with placed := (⟨builder.nextRow, .ofNat pair.2⟩, pair.1.toCell) :: builder.placed } rfl
      refine ⟨(⟨builder.nextRow, .ofNat pair.2⟩, pair.1.toCell) :: entries,
        bind_eq_ok_iff.mpr ⟨_, ?_, done.trans ?_⟩, ?_⟩
      · simp only [place, empty, Bool.false_eq_true, if_false, passed]
        rfl
      · simp
      · simpa [occupied, empty] using List.Forall₂.cons ⟨named, rfl⟩ places

/-- The row to come is exact as long as there is something left to be placed. -/
theorem toInt?_add_of_fits {next number : Number} {height : Nat} (nonneg : 0 ≤ top) (counted : Counted steps)
    (row : next.toInt? = some top ∨ occupied (given (top + height) steps) = [])
    (whole : number.toInt? = some (height : Int))
    (fits : ∀ entry ∈ occupied (given (top + height) steps), entry.1.row < 2 ^ (53 : Nat)) :
    (next + number).toInt? = some (top + height) ∨ occupied (given (top + height) steps) = [] := by
  refine or_iff_not_imp_right.mpr fun some => ?_
  obtain ⟨entry, member⟩ := List.exists_mem_of_ne_nil _ some
  have bound := top_le_of_mem_given counted (List.mem_of_mem_filter member)
  have small := fits entry member
  exact Number.toInt?_add_of_le (row.resolve_right some) whole (by omega)

/-- Whatever the steps are, what is placed are the inputs that are not empty, in their places. -/
theorem foldlM_take (counted : Counted steps) (nonneg : 0 ≤ top)
    (row : builder.nextRow.toInt? = some top ∨ occupied (given top steps) = [])
    (fits : ∀ entry ∈ occupied (given top steps), entry.1.row < 2 ^ (53 : Nat) ∧ entry.1.column < 2 ^ (53 : Nat)) :
    ∃ after entries, steps.foldlM take builder = .ok after ∧ after.placed = entries.reverse ++ builder.placed ∧
      List.Forall₂ Places entries (occupied (given top steps)) := by
  induction steps generalizing builder top with
  | nil => exact ⟨builder, [], rfl, rfl, .nil⟩
  | cons step steps ih =>
    rw [List.foldlM_cons]
    cases step with
    | row inputs =>
      rw [given, occupied_append] at row fits ⊢
      have here : builder.nextRow.toInt? = some top ∨ ∀ pair ∈ inputs.zipIdx, pair.1.toCell.isEmpty = true := by
        refine row.imp_right fun none => ?_
        have empty := List.filter_eq_nil_iff.mp (List.append_eq_nil_iff.mp none).1
        exact fun pair member => by simpa using empty _ (List.mem_map.mpr ⟨pair, member, rfl⟩)
      have small : ∀ pair ∈ inputs.zipIdx, pair.1.toCell.isEmpty = false → pair.2 < 2 ^ (53 : Nat) := by
        intro pair member some
        have given : (⟨top, pair.2⟩, pair.1) ∈ occupied (rowGiven top inputs) :=
          List.mem_filter.mpr ⟨List.mem_map.mpr ⟨pair, member, rfl⟩, by simp [some]⟩
        have column : (pair.2 : Int) < 2 ^ (53 : Nat) := (fits _ (List.mem_append_left _ given)).2
        exact_mod_cast column
      obtain ⟨entries, done, places⟩ := foldlM_place inputs.zipIdx nonneg here small
      have after : occupied (given (top + 1) steps) ⊆
          occupied (rowGiven top inputs) ++ occupied (given (top + 1) steps) := List.subset_append_right _ _
      have one : (1 : Number).toInt? = some ((1 : Nat) : Int) := by decide +kernel
      have next := toInt?_add_of_fits nonneg counted.tail
        (row.imp_right fun none => (List.append_eq_nil_iff.mp none).2) one
        fun entry member => (fits entry (after member)).1
      obtain ⟨final, others, rest, placed, more⟩ :=
        @ih (top + 1) { builder with placed := entries.reverse ++ builder.placed, nextRow := builder.nextRow + 1 }
          counted.tail (by omega) next fun entry member => fits entry (after member)
      refine ⟨final, entries ++ others, bind_eq_ok_iff.mpr ⟨_, bind_eq_ok_iff.mpr ⟨_, done, rfl⟩, rest⟩, ?_, ?_⟩
      · simp [placed]
      · exact List.rel_append places more
    | skip count =>
      obtain ⟨number, whole, skipped⟩ := counted.skipped
      rw [given, skipped] at row fits ⊢
      have next := toInt?_add_of_fits nonneg counted.tail row whole fun entry member => (fits entry member).1
      obtain ⟨final, entries, rest, placed, places⟩ :=
        @ih (top + number) (builder.skip count) counted.tail (by omega) next fits
      exact ⟨final, entries, bind_eq_ok_iff.mpr ⟨_, rfl, rest⟩, placed, places⟩

theorem exists_build (counted : Counted steps)
    (fits : ∀ entry ∈ occupied (given 0 steps), entry.1.row < 2 ^ (53 : Nat) ∧ entry.1.column < 2 ^ (53 : Nat)) :
    ∃ entries, build steps = .ok entries ∧ List.Forall₂ Places entries (occupied (given 0 steps)) := by
  have start : ({} : SheetBuilder).nextRow.toInt? = some 0 := by decide +kernel
  obtain ⟨after, entries, done, placed, places⟩ := foldlM_take counted (Int.le_refl 0) (.inl start) fits
  refine ⟨entries, ?_, places⟩
  have listed : after.cells = entries := by
    rw [cells, placed, List.append_nil, List.reverse_reverse]
  rw [build, done, ← listed]
  rfl

end SheetBuilder

namespace Holding

/-- A cell that is put is read as it was given, void aspects apart. -/
theorem toCell_ofCell (cell : Cell) : (ofCell cell).toCell = cell.tidy := by
  have kept (aspect : Aspect Payload) :
      (Aspect.ofContent? (withoutNull aspect.content?)).keep (!·.isVoid) = aspect.keep (!·.isVoid) := by
    cases aspect with
    | absent | blank => rfl
    | present content =>
      cases value : content.value <;>
        simp_all [Aspect.keep, Aspect.content?, Aspect.ofContent?, withoutNull, Option.filter, Payload.isNull,
          Payload.isVoid]
  have whole {α : Type} (aspect : Aspect α) :
      (Aspect.ofContent? aspect.content?).keep (fun _ => true) = aspect.keep fun _ => true := by
    cases aspect <;> rfl
  simp only [toCell, ofCell, Cell.tidy, kept, whole]

/-- A cell that is not empty occupies its place. -/
theorem isOccupied_ofCell {cell : Cell} (some : cell.isEmpty = false) : (ofCell cell).isOccupied = true := by
  have void (aspect : Aspect Payload) (none : withoutNull aspect.content? = none) :
      aspect.toOption.all Payload.isVoid = true := by
    cases aspect with
    | absent | blank => rfl
    | present content =>
      cases value : content.value <;>
        simp_all [Aspect.toOption, Aspect.content?, withoutNull, Option.filter, Payload.isNull, Payload.isVoid]
  by_contra vacant
  have blank := eq_of_not_isOccupied (Bool.not_eq_true _ ▸ vacant)
  simp only [ofCell, mk.injEq] at blank
  obtain ⟨value, style, format, richText⟩ := blank
  refine Bool.false_ne_true (some.symm.trans ?_)
  rw [Cell.isEmpty, void _ style, void _ richText]
  simp [Aspect.toOption, value, format]

end Holding

namespace Sheet
open SheetBuilder
variable {rows columns : Nat} {entries : List (Address Number × Cell)} {placed : List (Address Int × RowInput)}

/-- Cells in places that are apart are all written, and nothing else is. -/
theorem exists_create (equality : CellEquality) (places : List.Forall₂ Places entries placed)
    (within : ∀ entry ∈ placed, ({ rows, columns, equality } : Sheet).area.contains entry.1 = true)
    (apart : (placed.map Prod.fst).Nodup) : ∃ sheet, create rows columns equality entries = .ok sheet ∧
      (∀ entry ∈ placed, sheet.contents entry.1 = (Holding.ofCell entry.2.toCell).plain) ∧
      ∀ address, address ∉ placed.map Prod.fst → sheet.contents address = {} := by
  suffices written : ∃ sheet, create rows columns equality entries = .ok sheet ∧
      (∀ entry ∈ placed, sheet.contents entry.1 = (Holding.ofCell entry.2.toCell).plain) ∧
      ∀ address, address ∉ placed.map Prod.fst →
        sheet.contents address = ({ rows, columns, equality } : Sheet).contents address from written
  unfold create
  generalize ({ rows, columns, equality } : Sheet) = start at within ⊢
  induction places generalizing start with
  | nil => exact ⟨start, rfl, by simp, fun _ _ => rfl⟩
  | @cons entry given entries placed first _ ih =>
    obtain ⟨named, content⟩ := first
    obtain ⟨fresh, others⟩ := List.nodup_cons.mp apart
    have passed := inside_ok_iff.mpr ⟨named, within given List.mem_cons_self⟩
    let written := start.write fun stamp grid => grid.putCell given.1 (some (entry.2.stamped stamp))
    have contents (address : Address Int) : written.contents address =
        if address = given.1 then (Holding.ofCell given.2.toCell).plain else start.contents address := by
      simp only [written, write, Sheet.contents, Grid.holding_putCell, Option.getD_some]
      split
      · rw [Holding.plain_ofCell_stamped, content]
      · rfl
    obtain ⟨sheet, done, holds, elsewhere⟩ := ih others written fun entry member =>
      within entry (List.mem_cons_of_mem _ member)
    refine ⟨sheet, ?_, ?_, ?_⟩
    · rw [List.foldlM_cons]
      exact bind_eq_ok_iff.mpr ⟨written, bind_eq_ok_iff.mpr ⟨given.1, passed, rfl⟩, done⟩
    · refine List.forall_mem_cons.mpr ⟨?_, holds⟩
      rw [elsewhere _ fresh, contents, if_pos rfl]
    · intro address absent
      rw [List.map_cons, List.mem_cons, not_or] at absent
      obtain ⟨different, missing⟩ := absent
      rw [elsewhere _ missing, contents, if_neg different]

/-- The last coordinate of places in a list, or -1 if there are none. -/
def IsLastOf (placed : List (Address Int × RowInput)) (coordinate : Address Int → Int) (last : Int) : Prop :=
  (∀ entry ∈ placed, coordinate entry.1 ≤ last) ∧
    ((∃ entry ∈ placed, coordinate entry.1 = last) ∨ last = -1 ∧ placed = [])

/-- What a sheet is that holds some inputs in their places and nothing else. -/
structure StandsFor (sheet : Sheet) (placed : List (Address Int × RowInput)) : Prop where
  contents : ∀ entry ∈ placed, sheet.contents entry.1 = (Holding.ofCell entry.2.toCell).plain
  elsewhere : ∀ address, address ∉ placed.map Prod.fst → sheet.contents address = {}
  cells : sheet.cells = placed.map fun entry => (entry.1, entry.2.toCell.tidy.plain)
  count : sheet.grid.populated.size = placed.length
  lastRow : IsLastOf placed Address.row sheet.grid.lastRow
  lastColumn : IsLastOf placed Address.column sheet.grid.lastColumn

/-- The contents of a sheet and the order of the places tell all that is read of it. -/
theorem Sound.standsFor {sheet : Sheet} (sound : sheet.Sound rows columns)
    (contents : ∀ entry ∈ placed, sheet.contents entry.1 = (Holding.ofCell entry.2.toCell).plain)
    (elsewhere : ∀ address, address ∉ placed.map Prod.fst → sheet.contents address = {})
    (some : ∀ entry ∈ placed, entry.2.toCell.isEmpty = false)
    (ordered : (placed.map Prod.fst).Pairwise Address.Precedes) : sheet.StandsFor placed := by
  have occupied {entry : Address Int × RowInput} (member : entry ∈ placed) :
      (sheet.contents entry.1).isOccupied = true := by
    rw [contents entry member, Holding.isOccupied_plain]
    exact Holding.isOccupied_ofCell (some entry member)
  have populated (address : Address Int) : address ∈ sheet.grid.populated ↔ address ∈ placed.map Prod.fst := by
    rw [sound.mem_populated]
    constructor
    · intro present
      by_contra absent
      rw [elsewhere address absent] at present
      cases present
    · rintro listed
      obtain ⟨entry, member, rfl⟩ := List.mem_map.mp listed
      exact occupied member
  have listed : sheet.grid.populated.toList = placed.map Prod.fst :=
    Address.eq_of_pairwise_precedes sheet.grid.pairwise_populated ordered fun address => by
      rw [Std.TreeSet.mem_toList, populated]
  have last {coordinate : Address Int → Int} {final : Int}
      (measured : CellSet.IsLast sheet.grid.populated coordinate final) : IsLastOf placed coordinate final := by
    obtain ⟨bound, attained⟩ := measured
    refine ⟨fun entry member => bound _ ((populated _).mpr (List.mem_map_of_mem member)), ?_⟩
    rcases attained with ⟨address, present, reached⟩ | ⟨none, empty⟩
    · obtain ⟨entry, member, rfl⟩ := List.mem_map.mp ((populated _).mp present)
      exact .inl ⟨entry, member, reached⟩
    · refine .inr ⟨none, List.eq_nil_iff_forall_not_mem.mpr fun entry member => ?_⟩
      exact empty _ ((populated _).mpr (List.mem_map_of_mem member))
  refine ⟨contents, elsewhere, ?_, ?_, last sound.grid.lastRow, last sound.grid.lastColumn⟩
  · unfold Sheet.cells Grid.cells
    rw [sound.map_plain_collect, listed, List.filterMap_map]
    refine List.filterMap_eq_map_iff_forall_eq_some.mpr fun entry member => ?_
    rw [Function.comp_apply, Contents.cell?, if_pos (occupied member), contents entry member, ← Holding.plain_toCell,
      Holding.toCell_ofCell]
    rfl
  · rw [← Std.TreeSet.length_toList, listed, List.length_map]

/-- What is put together row by row is what the sheet holds: the inputs that are not empty, each in the column of its
index and in the row that the row calls before its own and the rows skipped before it make up. The sheet lists them in
the order in which they were given, and no two of them have one place. -/
theorem create_build {options : Payload} (dimensions : Dimensions.load options = .ok (rows, columns))
    (equality : CellEquality) {steps : List Step} (counted : Counted steps)
    (fits : ∀ entry ∈ occupied (given 0 steps), entry.1.row < rows ∧ entry.1.column < columns) :
    (∃ entries sheet, build steps = .ok entries ∧ create rows columns equality entries = .ok sheet ∧
      sheet.StandsFor (occupied (given 0 steps))) ∧
    (∀ address input, (address, input) ∈ occupied (given 0 steps) ↔ input.toCell.isEmpty = false ∧
      ∃ before inputs after, ∃ column : Nat, steps = before ++ .row inputs :: after ∧
        inputs[column]? = some input ∧ address = ⟨rowAfter before, column⟩) ∧
    ((occupied (given 0 steps)).map Prod.fst).Pairwise Address.Precedes := by
  have bounded := Dimensions.load_le dimensions
  have ordered : ((occupied (given 0 steps)).map Prod.fst).Pairwise Address.Precedes :=
    (pairwise_given counted).sublist (List.filter_sublist.map _)
  have places : ∀ address input, (address, input) ∈ occupied (given 0 steps) ↔ input.toCell.isEmpty = false ∧
      ∃ before inputs after, ∃ column : Nat, steps = before ++ .row inputs :: after ∧
        inputs[column]? = some input ∧ address = ⟨rowAfter before, column⟩ := by
    intro address input
    rw [occupied, List.mem_filter, mem_given, and_comm]
    simp
  refine ⟨?_, places, ordered⟩
  obtain ⟨entries, built, named⟩ := exists_build counted fun entry member => by
    have inside := fits entry member
    have limits : maxRows ≤ 2 ^ (53 : Nat) ∧ maxColumns ≤ 2 ^ (53 : Nat) := by decide
    omega
  have within : ∀ entry ∈ occupied (given 0 steps),
      ({ rows, columns, equality } : Sheet).area.contains entry.1 = true := by
    rintro ⟨address, input⟩ member
    obtain ⟨-, before, inputs, after, column, -, -, rfl⟩ := (places address input).mp member
    have low := top_le_of_mem_given counted (List.mem_of_mem_filter member)
    have high := fits _ member
    rw [Range.contains_iff]
    simp only [area] at low high ⊢
    omega
  have apart : ((occupied (given 0 steps)).map Prod.fst).Nodup := by
    refine ordered.imp ?_
    rintro address _ precedes rfl
    exact Std.Irrefl.irrefl address precedes
  obtain ⟨sheet, made, contents, elsewhere⟩ := exists_create equality named within apart
  exact ⟨entries, sheet, built, made, (sound_create bounded made).standsFor contents elsewhere
    (fun entry member => by simpa using (List.mem_filter.mp member).2) ordered⟩

/-- A gap, a blank text and a cell without content only take their places, and two rows are skipped. -/
theorem create_build_gaps :
    let steps : List Step := [.row [.gap, .typed " ", .number 1], .skip 2, .row [.typed "x", .cell {}, .flag true]]
    let options : Payload := .record [("rowCount", .number 4), ("columnCount", .number 3)]
    (Dimensions.load options = .ok (4, 3) ∧ Counted steps ∧
      ∀ entry ∈ occupied (given 0 steps), entry.1.row < (4 : Nat) ∧ entry.1.column < (3 : Nat)) ∧
    (occupied (given 0 steps)).map Prod.fst = [⟨0, 2⟩, ⟨3, 0⟩, ⟨3, 2⟩] ∧
    ∃ entries sheet, build steps = .ok entries ∧ create 4 3 {} entries = .ok sheet ∧
      sheet.StandsFor (occupied (given 0 steps)) := by
  intro steps options
  have dimensions : Dimensions.load options = .ok (4, 3) := by rfl
  have counted : Counted steps := by
    intro count member
    obtain rfl : count = 2 := by simpa [steps] using member
    exact ⟨2, by decide +kernel⟩
  have fits : ∀ entry ∈ occupied (given 0 steps), entry.1.row < (4 : Nat) ∧ entry.1.column < (3 : Nat) := by
    decide +kernel
  exact ⟨⟨dimensions, counted, fits⟩, by decide +kernel, (create_build dimensions {} counted fits).1⟩

end Sheet
end Spreadsheet
