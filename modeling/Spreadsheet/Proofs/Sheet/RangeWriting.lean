import Spreadsheet.Proofs.Sheet.GridSoundness

/-! What the writings of whole ranges do at each address: each one is a change of every cell of an area, whichever
cells it visits for it and in whatever order. -/
namespace Spreadsheet

namespace Holding

/-- What of a cell is carried along when the cell is copied: void styles and rich texts are not. -/
def kept (holding : Holding) : Holding :=
  { holding with
    style := holding.style.filter (!·.value.isVoid)
    richText := holding.richText.filter (!·.value.isVoid) }

/-- Without value and rich text. -/
def withoutContent (holding : Holding) : Holding := { holding with value := none, richText := none }

def withoutStyle (holding : Holding) : Holding := { holding with style := none }

def withoutFormat (holding : Holding) : Holding := { holding with format := none }

def withoutRichText (holding : Holding) : Holding := { holding with richText := none }

theorem content?_ofContent? {α : Type} (content : Option (Content α)) :
    (Aspect.ofContent? content).content? = content := by
  cases content <;> rfl

private theorem isVoid_of_isNull {payload : Payload} (null : payload.isNull = true) : payload.isVoid = true := by
  cases payload <;> first | rfl | cases null

private theorem withoutNull_filter (content : Option (Content Payload)) :
    withoutNull (content.filter (!·.value.isVoid)) = content.filter (!·.value.isVoid) := by
  cases content with
  | none => rfl
  | some content =>
    by_cases void : content.value.isVoid = true
    · simp [withoutNull, Option.filter, void]
    · have solid : content.value.isNull ≠ true := fun null => void (isVoid_of_isNull null)
      simp [withoutNull, Option.filter, void, solid]

private theorem filter_all {α : Type} (content : Option α) : content.filter (fun _ => true) = content := by
  cases content <;> rfl

/-- A tidy cell comes to what is not void. -/
theorem ofCell_tidy (cell : Cell) :
    ofCell cell.tidy = ⟨cell.value.content?, cell.style.content?.filter (!·.value.isVoid), cell.format.content?,
      cell.richText.content?.filter (!·.value.isVoid)⟩ := by
  simp only [ofCell, Cell.tidy, Aspect.keep, content?_ofContent?, withoutNull_filter, filter_all]

/-- To read a cell and to put it again keeps what is not void. -/
theorem ofCell_toCell (holding : Holding) : ofCell holding.toCell = holding.kept := by
  simp only [toCell, ofCell_tidy, content?_ofContent?, kept]

/-- What a fill takes of a cell. -/
theorem ofCell_withoutRichText (holding : Holding) :
    ofCell holding.toCell.withoutRichText = holding.kept.withoutRichText := by
  rw [Cell.withoutRichText, ofCell_tidy]
  simp only [toCell, Cell.tidy, Aspect.keep, content?_ofContent?, filter_all, kept, withoutRichText,
    Option.filter_filter, Bool.and_self]
  rfl

end Holding

namespace Grid
variable {area : Range Int} {grid : Grid} {range : Range Int} {address other : Address Int}

theorem mem_populatedIn :
    address ∈ grid.populatedIn range ↔ range.contains address = true ∧ address ∈ grid.populated := by
  unfold populatedIn
  split
  · simp [Range.mem_cells]
  · simp [and_comm]

section foldl
variable {f : Grid → Address Int → Grid} (change : Holding → Holding)

/-- A walk that does one change to each cell it meets; a second time changes nothing more. -/
theorem holding_foldl
    (pointwise : ∀ grid address other, (f grid address).holding other =
      if other = address then change (grid.holding other) else grid.holding other)
    (idempotent : ∀ holding, change (change holding) = change holding) (addresses : List (Address Int)) :
    (addresses.foldl f grid).holding other =
      if other ∈ addresses then change (grid.holding other) else grid.holding other := by
  induction addresses generalizing grid with
  | nil => simp
  | cons address rest ih =>
    rw [List.foldl_cons, ih, pointwise]
    by_cases later : other ∈ rest
    · rw [if_pos later, if_pos (List.mem_cons_of_mem _ later)]
      by_cases here : other = address
      · rw [if_pos here, idempotent]
      · rw [if_neg here]
    · rw [if_neg later]
      by_cases here : other = address
      · rw [if_pos here, if_pos (by simp [here])]
      · rw [if_neg here, if_neg (by simp [here, later])]

/-- To change the populated cells of a range is to change all of its cells, where nothing comes of nothing. -/
theorem Sound.holding_foldl (sound : Sound area grid)
    (pointwise : ∀ grid address other, (f grid address).holding other =
      if other = address then change (grid.holding other) else grid.holding other)
    (idempotent : ∀ holding, change (change holding) = change holding) (vacant : change {} = {}) :
    ((grid.populatedIn range).foldl f grid).holding other =
      if range.contains other = true then change (grid.holding other) else grid.holding other := by
  rw [Grid.holding_foldl change pointwise idempotent]
  by_cases within : range.contains other = true
  · by_cases populated : other ∈ grid.populated
    · simp [mem_populatedIn, within, populated]
    · have absent : grid.holding other = {} :=
        Holding.eq_of_not_isOccupied (by simpa [sound.mem_populated] using populated)
      simp [mem_populatedIn, populated, absent, vacant]
  · simp [mem_populatedIn, within]

end foldl

theorem holding_putContent_none :
    ((grid.putValue address none).putRichText address none).holding other =
      if other = address then (grid.holding other).withoutContent else grid.holding other := by
  rw [holding_putRichText, holding_putValue]
  split <;> rfl

section erasing
variable (sound : Sound area grid)
include sound

theorem Sound.holding_erase :
    (grid.erase (grid.populatedIn range)).holding other =
      if range.contains other = true then {} else grid.holding other :=
  sound.holding_foldl (fun _ => {}) (fun _ _ _ => holding_putCell none) (fun _ => rfl) rfl

theorem Sound.holding_eraseValues :
    (grid.eraseValues (grid.populatedIn range)).holding other =
      if range.contains other = true then (grid.holding other).withoutContent else grid.holding other :=
  sound.holding_foldl .withoutContent (fun _ _ _ => holding_putContent_none) (fun _ => rfl) rfl

/-- The cells of a region but its first one lose value and rich text. -/
theorem Sound.holding_eraseCovered :
    (grid.eraseCovered range).holding other =
      if range.contains other = true ∧ other ≠ range.topLeft then (grid.holding other).withoutContent
      else grid.holding other := by
  unfold eraseCovered eraseValues
  rw [Grid.holding_foldl .withoutContent (fun _ _ _ => holding_putContent_none) fun _ => rfl]
  by_cases populated : other ∈ grid.populated
  · simp [mem_populatedIn, populated]
  · have absent : grid.holding other = {} :=
      Holding.eq_of_not_isOccupied (by simpa [sound.mem_populated] using populated)
    simp [mem_populatedIn, populated, absent, Holding.withoutContent]

theorem Sound.holding_eraseStyles :
    (grid.eraseStyles (grid.populatedIn range)).holding other =
      if range.contains other = true then (grid.holding other).withoutStyle else grid.holding other :=
  sound.holding_foldl .withoutStyle (fun _ _ _ => holding_putStyle none) (fun _ => rfl) rfl

theorem Sound.holding_eraseFormats :
    (grid.eraseFormats (grid.populatedIn range)).holding other =
      if range.contains other = true then (grid.holding other).withoutFormat else grid.holding other :=
  sound.holding_foldl .withoutFormat (fun _ _ _ => holding_putFormat none) (fun _ => rfl) rfl

/-- The cell that is read of a place is what the place holds, void contents apart. -/
theorem Sound.ofCell_cell? : .ofCell ((grid.cell? address).getD {}) = (grid.holding address).kept := by
  rw [cell?_eq]
  split
  · exact Holding.ofCell_toCell _
  · rename_i absent
    have vacant : grid.holding address = {} :=
      Holding.eq_of_not_isOccupied (by simpa [sound.mem_populated] using absent)
    rw [vacant]
    rfl

end erasing

/-- Cells that are put one after another, if no two of them disagree about a place. -/
theorem holding_putCells (made : Address Int → Holding) (cells : List (Address Int × Option Cell))
    (agree : ∀ pair ∈ cells, .ofCell (pair.2.getD {}) = made pair.1) :
    (grid.putCells cells).holding other =
      if other ∈ cells.map Prod.fst then made other else grid.holding other := by
  induction cells generalizing grid with
  | nil => simp [putCells]
  | cons pair rest ih =>
    have later := @ih (grid.putCell pair.1 pair.2) fun pair member => agree pair (List.mem_cons_of_mem _ member)
    have first := agree pair (by simp)
    change (Grid.putCells _ rest).holding other = _
    rw [later, holding_putCell, first]
    by_cases here : other = pair.1
    · subst other
      simp
    · by_cases there : other ∈ rest.map Prod.fst <;> simp [here, there]

theorem holding_fill (cell : Option Cell) :
    (grid.fill range cell).holding other =
      if range.contains other = true then .ofCell (cell.getD {}) else grid.holding other := by
  rw [fill, holding_putCells fun _ => .ofCell (cell.getD {})]
  · simp only [List.map_map, Function.comp_def, List.map_id', Range.mem_cells]
  · intro pair member
    obtain ⟨_, _, rfl⟩ := List.mem_map.mp member
    rfl

/-- Where a cell of a copy comes from. -/
def copiedFrom (source : Range Int) (target address : Address Int) : Address Int :=
  ⟨address.row - target.row + source.top, address.column - target.column + source.left⟩

private theorem copiedFrom_copy (source : Range Int) (target address : Address Int) :
    copiedFrom source target ⟨address.row - source.top + target.row, address.column - source.left + target.column⟩ =
      address := by
  cases address
  simp only [copiedFrom, Address.mk.injEq]
  omega

theorem Sound.holding_copy {source : Range Int} {target : Address Int} (sound : Sound area grid) :
    (grid.copy source target).holding other =
      if source.contains (copiedFrom source target other) = true then
        (grid.holding (copiedFrom source target other)).kept
      else grid.holding other := by
  rw [copy, holding_putCells fun address => (grid.holding (copiedFrom source target address)).kept]
  · congr 1
    simp only [List.map_map, Function.comp_def, List.mem_map, Range.mem_cells, eq_iff_iff]
    constructor
    · rintro ⟨address, within, rfl⟩
      rwa [copiedFrom_copy]
    · intro within
      refine ⟨_, within, ?_⟩
      cases other
      simp only [copiedFrom, Address.mk.injEq]
      omega
  · intro pair member
    obtain ⟨address, _, rfl⟩ := List.mem_map.mp member
    rw [copiedFrom_copy]
    exact sound.ofCell_cell?

section edited

/-- Walks over cells of an area edit the area. -/
theorem edited_putCells {cells : List (Address Int × Option Cell)}
    (inside : ∀ pair ∈ cells, area.contains pair.1 = true) : Edited area grid (grid.putCells cells) :=
  Edited.refl.foldl fun pair member _ earlier => earlier.putCell (inside pair member) pair.2

variable {addresses : List (Address Int)} (inside : ∀ address ∈ addresses, area.contains address = true)
include inside

theorem edited_erase : Edited area grid (grid.erase addresses) :=
  Edited.refl.foldl fun address member _ earlier => earlier.putCell (inside address member) none

theorem edited_eraseValues : Edited area grid (grid.eraseValues addresses) :=
  Edited.refl.foldl fun address member _ earlier =>
    (earlier.value (inside address member) none).richText (inside address member) none

theorem edited_eraseStyles : Edited area grid (grid.eraseStyles addresses) :=
  Edited.refl.foldl fun address member _ earlier => earlier.style (inside address member) none

theorem edited_eraseFormats : Edited area grid (grid.eraseFormats addresses) :=
  Edited.refl.foldl fun address member _ earlier => earlier.format (inside address member) none

end edited

theorem edited_fill (cell : Option Cell) : Edited range grid (grid.fill range cell) := by
  apply edited_putCells
  intro pair member
  obtain ⟨address, within, rfl⟩ := List.mem_map.mp member
  exact Range.mem_cells.mp within

/-- A copy stays in the area if the area has room for the source from the target on. -/
theorem edited_copy {source : Range Int} {target : Address Int} (top : area.top ≤ target.row)
    (left : area.left ≤ target.column) (bottom : target.row + (source.bottom - source.top) ≤ area.bottom)
    (right : target.column + (source.right - source.left) ≤ area.right) :
    Edited area grid (grid.copy source target) := by
  apply edited_putCells
  intro pair member
  obtain ⟨address, within, rfl⟩ := List.mem_map.mp member
  rw [Range.mem_cells, Range.contains_iff] at within
  rw [Range.contains_iff]
  simp only
  omega

theorem edited_eraseCovered : Edited range grid (grid.eraseCovered range) :=
  edited_eraseValues fun _ member => (mem_populatedIn.mp (List.mem_filter.mp member).1).1

end Grid
end Spreadsheet
