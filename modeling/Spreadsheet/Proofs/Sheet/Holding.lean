import Spreadsheet.Proofs.Coordinate.Area
import Spreadsheet.Sheet.Grid

/-! What a grid holds at each address, and how every writing changes it there and nowhere else. -/
namespace Spreadsheet

/-- What is held at one address: a content or none for each aspect. -/
@[ext]
structure Holding where
  value : Option (Content CellValue) := none
  style : Option (Content Payload) := none
  format : Option (Content CellFormat) := none
  richText : Option (Content Payload) := none

namespace Holding

/-- At least one aspect has content. -/
def isOccupied (holding : Holding) : Bool :=
  holding.value.isSome || holding.style.isSome || holding.format.isSome || holding.richText.isSome

/-- The contents without their stamps. -/
def plain (holding : Holding) : Holding :=
  ⟨holding.value.map Content.plain, holding.style.map Content.plain, holding.format.map Content.plain,
    holding.richText.map Content.plain⟩

/-- Null contents are none. -/
def withoutNull (content : Option (Content Payload)) : Option (Content Payload) :=
  content.filter (!·.value.isNull)

/-- No content is null. -/
def NoNull (holding : Holding) : Prop :=
  (∀ style ∈ holding.style, style.value.isNull = false) ∧
    ∀ richText ∈ holding.richText, richText.value.isNull = false

/-- What a cell comes to when it is put. -/
def ofCell (cell : Cell) : Holding :=
  ⟨cell.value.content?, withoutNull cell.style.content?, cell.format.content?, withoutNull cell.richText.content?⟩

/-- The cell that is read: void styles and rich texts are left out. -/
def toCell (holding : Holding) : Cell :=
  Cell.tidy ⟨.ofContent? holding.value, .ofContent? holding.style, .ofContent? holding.format,
    .ofContent? holding.richText⟩

theorem eq_of_not_isOccupied {holding : Holding} (vacant : holding.isOccupied = false) : holding = {} := by
  cases holding
  simp [isOccupied] at vacant
  simp [vacant]

end Holding

theorem Layer.getElem?_put {α : Type} (layer : Layer α) (address other : Address Int) (content : Option (Content α)) :
    (layer.put address content)[other]? = if other = address then content else layer[other]? := by
  by_cases same : other = address
  · subst other
    cases content <;> simp [Layer.put]
  · have differs : Address.rowMajor address other ≠ .eq :=
      fun equal => same (Std.LawfulEqCmp.eq_of_compare equal).symm
    cases content <;> simp [Layer.put, Std.TreeMap.getElem?_insert, Std.TreeMap.getElem?_erase, differs, same]

namespace Grid
variable {grid : Grid} {address other : Address Int}

/-- What a grid holds at an address. -/
def holding (grid : Grid) (address : Address Int) : Holding :=
  ⟨grid.values[address]?, grid.styles[address]?, grid.formats[address]?, grid.richTexts[address]?⟩

theorem isOccupied_eq : grid.isOccupied address = (grid.holding address).isOccupied := by
  simp [isOccupied, Holding.isOccupied, holding]

theorem cell?_eq :
    grid.cell? address = if grid.populated.contains address then some (grid.holding address).toCell else none := rfl

/-- Only the record of populated cells follows a change. -/
theorem holding_sync : (grid.sync address).holding other = grid.holding other := by
  unfold sync
  split
  · split <;> rfl
  · split
    · simp only
      split <;> rfl
    · rfl

theorem holding_putValue (value : Option (Content CellValue)) :
    (grid.putValue address value).holding other =
      if other = address then { grid.holding other with value } else grid.holding other := by
  rw [putValue, holding_sync]
  simp only [holding, Layer.getElem?_put]
  split <;> rfl

theorem holding_putStyle (style : Option (Content Payload)) :
    (grid.putStyle address style).holding other =
      if other = address then { grid.holding other with style := Holding.withoutNull style }
      else grid.holding other := by
  rw [putStyle, holding_sync]
  simp only [holding, Layer.getElem?_put, Holding.withoutNull]
  split <;> rfl

theorem holding_putFormat (format : Option (Content CellFormat)) :
    (grid.putFormat address format).holding other =
      if other = address then { grid.holding other with format } else grid.holding other := by
  rw [putFormat, holding_sync]
  simp only [holding, Layer.getElem?_put]
  split <;> rfl

theorem holding_putRichText (richText : Option (Content Payload)) :
    (grid.putRichText address richText).holding other =
      if other = address then { grid.holding other with richText := Holding.withoutNull richText }
      else grid.holding other := by
  rw [putRichText, holding_sync]
  simp only [holding, Layer.getElem?_put, Holding.withoutNull]
  split <;> rfl

theorem holding_putCell (cell : Option Cell) :
    (grid.putCell address cell).holding other =
      if other = address then .ofCell (cell.getD {}) else grid.holding other := by
  simp only [putCell, holding_putValue, holding_putStyle, holding_putFormat, holding_putRichText]
  split <;> rfl

/-- Grids that come about from a grid when aspects of cells of an area are put one after another. -/
inductive Edited (area : Range Int) (grid : Grid) : Grid → Prop
  | refl : Edited area grid grid
  | value {now : Grid} {address : Address Int} (earlier : Edited area grid now)
      (inside : area.contains address = true) (value : Option (Content CellValue)) :
      Edited area grid (now.putValue address value)
  | style {now : Grid} {address : Address Int} (earlier : Edited area grid now)
      (inside : area.contains address = true) (style : Option (Content Payload)) :
      Edited area grid (now.putStyle address style)
  | format {now : Grid} {address : Address Int} (earlier : Edited area grid now)
      (inside : area.contains address = true) (format : Option (Content CellFormat)) :
      Edited area grid (now.putFormat address format)
  | richText {now : Grid} {address : Address Int} (earlier : Edited area grid now)
      (inside : area.contains address = true) (richText : Option (Content Payload)) :
      Edited area grid (now.putRichText address richText)

namespace Edited
variable {area : Range Int} {now : Grid}

/-- Outside the area everything is as it was. -/
theorem holding_eq (edited : Edited area grid now) (outside : area.contains other = false) :
    now.holding other = grid.holding other := by
  have differs {address : Address Int} (inside : area.contains address = true) : other ≠ address := by
    rintro rfl
    simp [inside] at outside
  induction edited with
  | refl => rfl
  | value earlier inside value ih => rw [holding_putValue, if_neg (differs inside), ih]
  | style earlier inside style ih => rw [holding_putStyle, if_neg (differs inside), ih]
  | format earlier inside format ih => rw [holding_putFormat, if_neg (differs inside), ih]
  | richText earlier inside richText ih => rw [holding_putRichText, if_neg (differs inside), ih]

theorem putCell (earlier : Edited area grid now) (inside : area.contains address = true) (cell : Option Cell) :
    Edited area grid (now.putCell address cell) :=
  (((earlier.value inside _).style inside _).format inside _).richText inside _

/-- A walk over cells of the area that edits them in turn. -/
theorem foldl {items : List α} {f : Grid → α → Grid} (earlier : Edited area grid now)
    (step : ∀ item ∈ items, ∀ now, Edited area grid now → Edited area grid (f now item)) :
    Edited area grid (items.foldl f now) := by
  induction items generalizing now with
  | nil => exact earlier
  | cons item rest ih =>
    exact ih (step item (by simp) now earlier) fun item member => step item (List.mem_cons_of_mem _ member)

end Edited
end Grid
end Spreadsheet
