import Spreadsheet.Proofs.Sheet.Holding

/-! The record of populated cells and the last row and column, which follow the four layers of a grid: every writing
inside an area keeps them exact. -/
namespace Spreadsheet

/-- Cells as a grid records them. -/
abbrev CellSet := Std.TreeSet (Address Int) Address.rowMajor

namespace CellSet
variable {cells : CellSet} {address other : Address Int}

theorem mem_insert_iff : other ∈ cells.insert address ↔ other = address ∨ other ∈ cells := by
  rw [Std.TreeSet.mem_insert, Std.LawfulEqCmp.compare_eq_iff_eq]
  simp [eq_comm]

theorem mem_erase_iff : other ∈ cells.erase address ↔ other ≠ address ∧ other ∈ cells := by
  rw [Std.TreeSet.mem_erase, Ne, Std.LawfulEqCmp.compare_eq_iff_eq]
  simp [eq_comm]

/-- The greatest coordinate of some cells; without cells it is -1. -/
def IsLast (cells : CellSet) (coordinate : Address Int → Int) (last : Int) : Prop :=
  (∀ address ∈ cells, coordinate address ≤ last) ∧
    ((∃ address ∈ cells, coordinate address = last) ∨ last = -1 ∧ ∀ address, address ∉ cells)

variable {coordinate : Address Int → Int} {last : Int}

theorem isLast_empty : IsLast ∅ coordinate (-1) := by
  simp [IsLast]

theorem IsLast.insert (exact : IsLast cells coordinate last) (positive : 0 ≤ coordinate address) :
    IsLast (cells.insert address) coordinate (max last (coordinate address)) := by
  obtain ⟨bound, attained⟩ := exact
  refine ⟨?_, .inl ?_⟩
  · intro other member
    rcases mem_insert_iff.mp member with rfl | earlier
    · omega
    · have := bound other earlier
      omega
  · by_cases greater : last ≤ coordinate address
    · exact ⟨address, mem_insert_iff.mpr (.inl rfl), by omega⟩
    · rcases attained with ⟨other, member, same⟩ | ⟨rfl, _⟩
      · exact ⟨other, mem_insert_iff.mpr (.inr member), by omega⟩
      · omega

/-- To erase a cell that is not the last one does not move the last coordinate. -/
theorem IsLast.erase (exact : IsLast cells coordinate last) (member : address ∈ cells)
    (different : coordinate address ≠ last) : IsLast (cells.erase address) coordinate last := by
  obtain ⟨bound, attained⟩ := exact
  refine ⟨fun other present => bound other (mem_erase_iff.mp present).2, ?_⟩
  rcases attained with ⟨other, present, same⟩ | ⟨_, empty⟩
  · refine .inl ⟨other, mem_erase_iff.mpr ⟨?_, present⟩, same⟩
    rintro rfl
    exact different same
  · exact absurd member (empty address)

private theorem foldl_max (coordinate : Address Int → Int) (addresses : List (Address Int)) (start : Int) :
    let last := addresses.foldl (fun last address => max last (coordinate address)) start
    start ≤ last ∧ (∀ address ∈ addresses, coordinate address ≤ last) ∧
      (last = start ∨ ∃ address ∈ addresses, coordinate address = last) := by
  induction addresses generalizing start with
  | nil => simp
  | cons address rest ih =>
    obtain ⟨above, bound, attained⟩ := ih (max start (coordinate address))
    simp only [List.foldl_cons]
    refine ⟨by omega, ?_, ?_⟩
    · intro other member
      rcases List.mem_cons.mp member with rfl | later
      · omega
      · exact bound other later
    · rcases attained with same | ⟨other, member, same⟩
      · by_cases greater : start ≤ coordinate address
        · exact .inr ⟨address, by simp, by omega⟩
        · exact .inl (by omega)
      · exact .inr ⟨other, List.mem_cons_of_mem _ member, same⟩

/-- To look at all cells anew finds the last coordinate. -/
theorem isLast_foldl (positive : ∀ address ∈ cells, 0 ≤ coordinate address) :
    IsLast cells coordinate (cells.foldl (fun last address => max last (coordinate address)) (-1)) := by
  rw [Std.TreeSet.foldl_eq_foldl_toList]
  obtain ⟨above, bound, attained⟩ := foldl_max coordinate cells.toList (-1)
  refine ⟨fun address member => bound address (Std.TreeSet.mem_toList.mpr member), ?_⟩
  rcases attained with same | ⟨address, member, same⟩
  · refine .inr ⟨same, ?_⟩
    intro address member
    have low := bound address (Std.TreeSet.mem_toList.mpr member)
    have high := positive address member
    omega
  · exact .inl ⟨address, Std.TreeSet.mem_toList.mp member, same⟩

end CellSet

namespace Grid
variable {area : Range Int} {grid : Grid} {address other : Address Int}

/-- The recorded cells are in an area, and the last row and column among them are exact. -/
structure Recorded (area : Range Int) (grid : Grid) : Prop where
  inside : ∀ address ∈ grid.populated, area.contains address = true
  lastRow : CellSet.IsLast grid.populated Address.row grid.lastRow
  lastColumn : CellSet.IsLast grid.populated Address.column grid.lastColumn

/-- The cells that hold something are recorded, and no others; nothing that is held is null. -/
structure Sound (area : Range Int) (grid : Grid) : Prop extends Recorded area grid where
  mem_populated : ∀ address, address ∈ grid.populated ↔ (grid.holding address).isOccupied = true
  noNull : ∀ address, (grid.holding address).NoNull

theorem holding_empty : ({} : Grid).holding address = {} := rfl

theorem sound_empty (area : Range Int) : Sound area {} where
  inside address member := absurd member Std.TreeSet.not_mem_emptyc
  lastRow := CellSet.isLast_empty
  lastColumn := CellSet.isLast_empty
  mem_populated address := by simp [holding_empty, Holding.isOccupied]
  noNull address := by simp [holding_empty, Holding.NoNull]

theorem coordinates_of_contains (positive : 0 ≤ area.top ∧ 0 ≤ area.left) (within : area.contains address = true) :
    0 ≤ address.row ∧ 0 ≤ address.column := by
  rw [Range.contains_iff] at within
  omega

/-- The record follows whatever has happened to one cell. -/
theorem mem_populated_sync
    (elsewhere : ∀ other ≠ address, other ∈ grid.populated ↔ (grid.holding other).isOccupied = true) :
    other ∈ (grid.sync address).populated ↔ (grid.holding other).isOccupied = true := by
  by_cases same : other = address
  · subst other
    unfold sync
    rw [isOccupied_eq]
    split
    · rename_i occupied
      split
      · rename_i present
        exact iff_of_true present occupied
      · exact iff_of_true (CellSet.mem_insert_iff.mpr (.inl rfl)) occupied
    · rename_i vacant
      split
      · simp only
        split <;> exact iff_of_false (fun member => (CellSet.mem_erase_iff.mp member).1 rfl) vacant
      · rename_i absent
        exact iff_of_false absent vacant
  · rw [← elsewhere other same]
    unfold sync
    split
    · split
      · rfl
      · rw [CellSet.mem_insert_iff]
        simp [same]
    · split
      · have kept : other ∈ grid.populated.erase address ↔ other ∈ grid.populated := by
          rw [CellSet.mem_erase_iff]
          simp [same]
        simp only
        split <;> exact kept
      · rfl

/-- The last row and column stay exact when a cell of the area is brought up to date. -/
theorem Recorded.sync (recorded : Recorded area grid) (positive : 0 ≤ area.top ∧ 0 ≤ area.left)
    (within : area.contains address = true) : Recorded area (grid.sync address) := by
  unfold Grid.sync
  split
  · split
    · exact recorded
    · refine ⟨?_, recorded.lastRow.insert (coordinates_of_contains positive within).1,
        recorded.lastColumn.insert (coordinates_of_contains positive within).2⟩
      intro other member
      rcases CellSet.mem_insert_iff.mp member with rfl | earlier
      · exact within
      · exact recorded.inside other earlier
  · split
    · rename_i present
      have remain : ∀ other ∈ grid.populated.erase address, area.contains other = true :=
        fun other member => recorded.inside other (CellSet.mem_erase_iff.mp member).2
      simp only
      split
      · exact ⟨remain,
          CellSet.isLast_foldl fun other member => (coordinates_of_contains positive (remain other member)).1,
          CellSet.isLast_foldl fun other member => (coordinates_of_contains positive (remain other member)).2⟩
      · rename_i notLast
        rw [not_or] at notLast
        exact ⟨remain, recorded.lastRow.erase present notLast.1, recorded.lastColumn.erase present notLast.2⟩
    · exact recorded

/-- A change of the layers at one cell of the area, with the record brought up to date, keeps a grid sound. -/
theorem Sound.sync {changed : Grid} (sound : Sound area grid) (positive : 0 ≤ area.top ∧ 0 ≤ area.left)
    (within : area.contains address = true)
    (record : changed.populated = grid.populated ∧ changed.lastRow = grid.lastRow ∧
      changed.lastColumn = grid.lastColumn)
    (frame : ∀ other ≠ address, changed.holding other = grid.holding other)
    (fresh : (changed.holding address).NoNull) : Sound area (changed.sync address) := by
  have recorded : Recorded area changed :=
    ⟨by rw [record.1]; exact sound.inside, by rw [record.1, record.2.1]; exact sound.lastRow,
      by rw [record.1, record.2.2]; exact sound.lastColumn⟩
  refine ⟨recorded.sync positive within, ?_, ?_⟩
  · intro other
    rw [holding_sync]
    apply mem_populated_sync
    intro other different
    rw [record.1, frame other different, sound.mem_populated other]
  · intro other
    rw [holding_sync]
    by_cases same : other = address
    · subst other
      exact fresh
    · rw [frame other same]
      exact sound.noNull other

variable (sound : Sound area grid) (positive : 0 ≤ area.top ∧ 0 ≤ area.left) (within : area.contains address = true)
include sound positive within

theorem Sound.putValue (value : Option (Content CellValue)) : Sound area (grid.putValue address value) := by
  refine sound.sync positive within ⟨rfl, rfl, rfl⟩ ?_ ?_
  · intro other different
    simp [holding, Layer.getElem?_put, different]
  · simpa [holding, Layer.getElem?_put, Holding.NoNull] using sound.noNull address

theorem Sound.putStyle (style : Option (Content Payload)) : Sound area (grid.putStyle address style) := by
  refine sound.sync positive within ⟨rfl, rfl, rfl⟩ ?_ ⟨?_, ?_⟩
  · intro other different
    simp [holding, Layer.getElem?_put, different]
  · simp [holding, Layer.getElem?_put]
  · exact (sound.noNull address).2

theorem Sound.putFormat (format : Option (Content CellFormat)) : Sound area (grid.putFormat address format) := by
  refine sound.sync positive within ⟨rfl, rfl, rfl⟩ ?_ ?_
  · intro other different
    simp [holding, Layer.getElem?_put, different]
  · simpa [holding, Layer.getElem?_put, Holding.NoNull] using sound.noNull address

theorem Sound.putRichText (richText : Option (Content Payload)) : Sound area (grid.putRichText address richText) := by
  refine sound.sync positive within ⟨rfl, rfl, rfl⟩ ?_ ⟨?_, ?_⟩
  · intro other different
    simp [holding, Layer.getElem?_put, different]
  · exact (sound.noNull address).1
  · simp [holding, Layer.getElem?_put]

omit within in
/-- All that is done inside an area keeps a grid sound. -/
theorem Sound.edited {inner : Range Int} {now : Grid} (covered : area.containsRange inner = true)
    (edited : Edited inner grid now) : Sound area now := by
  induction edited with
  | refl => exact sound
  | value earlier inside value ih => exact ih.putValue positive (Range.contains_trans covered inside) value
  | style earlier inside style ih => exact ih.putStyle positive (Range.contains_trans covered inside) style
  | format earlier inside format ih => exact ih.putFormat positive (Range.contains_trans covered inside) format
  | richText earlier inside richText ih =>
    exact ih.putRichText positive (Range.contains_trans covered inside) richText

end Grid
end Spreadsheet
