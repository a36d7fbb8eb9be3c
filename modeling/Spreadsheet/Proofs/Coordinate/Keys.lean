import Mathlib.Data.List.Basic
import Spreadsheet.Coordinate.Key
import Spreadsheet.Proofs.Coordinate.Checked
import Spreadsheet.Proofs.Number.Signed

/-! Keys of cells tell the cells apart: the key of a cell reads back as its coordinates, and no other cell has it. -/
namespace Spreadsheet.Address
variable {address other : Address Number} {cell beside : Address Int}

/-- Coordinates that numbers tell exactly: each has less than 54 bits. -/
def IsExact (cell : Address Int) : Prop := cell.row.natAbs < 2 ^ 53 ∧ cell.column.natAbs < 2 ^ 53

/-- Coordinates that a key can tell: none is negative, and each has less than 54 bits. -/
def IsTellable (cell : Address Int) : Prop :=
  (0 ≤ cell.row ∧ cell.row.natAbs < 2 ^ 53) ∧ 0 ≤ cell.column ∧ cell.column.natAbs < 2 ^ 53

theorem IsTellable.isExact (tellable : cell.IsTellable) : cell.IsExact := ⟨tellable.1.2, tellable.2.2⟩

/-- Row and column of a key are divided by its only underscore. -/
theorem ofKey_key_eq (address : Address Number) :
    ofKey address.key = ⟨.ofText address.row.text, .ofText address.column.text⟩ := by
  have before : ∀ c ∈ address.row.text, (c != '_') = true := by
    intro c member
    rw [bne_iff_ne]
    rintro rfl
    exact Number.underscore_not_mem_text member
  rw [key, ofKey, if_pos (by simp), List.takeWhile_append_of_pos before, List.dropWhile_append_of_pos before]
  simp

theorem ofKey_key_of_isExact (exact : cell.IsExact) : ofKey cell.toNumber.key = cell.toNumber := by
  rw [ofKey_key_eq]
  exact congrArg₂ _ (Number.ofText_text_ofInt exact.1) (Number.ofText_text_ofInt exact.2)

theorem ofKey_key (tellable : cell.IsTellable) : ofKey cell.toNumber.key = cell.toNumber :=
  ofKey_key_of_isExact tellable.isExact

theorem key_eq_key_iff :
    address.key = other.key ↔ address.row.text = other.row.text ∧ address.column.text = other.column.text := by
  rw [key, key, List.append_cons_inj_of_notMem Number.underscore_not_mem_text Number.underscore_not_mem_text]
  simp

/-- The key of a cell is that of the addresses that name the cell. -/
theorem key_eq_key_toNumber_iff (exact : cell.IsExact) : address.key = cell.toNumber.key ↔ address.toInt? = some cell := by
  rw [key_eq_key_iff, toInt?_eq_some_iff]
  exact and_congr (Number.text_eq_text_ofInt_iff exact.1) (Number.text_eq_text_ofInt_iff exact.2)

/-- No other cell has the key of a cell, though its coordinates may be too large for numbers to tell them exactly. -/
theorem toNumber_key_eq_iff (exact : cell.IsExact) : beside.toNumber.key = cell.toNumber.key ↔ beside = cell := by
  refine ⟨fun same => ?_, fun same => same ▸ rfl⟩
  obtain ⟨row, column⟩ := toInt?_eq_some_iff.mp ((key_eq_key_toNumber_iff exact).mp same)
  cases beside
  cases cell
  exact congrArg₂ _ (Number.eq_of_toInt?_ofInt row exact.1) (Number.eq_of_toInt?_ofInt column exact.2)

end Spreadsheet.Address
