import Spreadsheet.Proofs.Coordinate.Area
import Spreadsheet.Sheet.Basic

/-! What is known of an address or a range that passes its checks, on its own and in a sheet. -/
namespace Spreadsheet

/-- A chain of checks passes if and only if each of its parts does. -/
theorem bind_eq_ok_iff {ε α β : Type} {first : Except ε α} {rest : α → Except ε β} {result : β} :
    first >>= rest = .ok result ↔ ∃ value, first = .ok value ∧ rest value = .ok result := by
  cases first with
  | error e => simp [bind, Except.bind]
  | ok value => simp [bind, Except.bind]

theorem requireIndex_ok_iff {label : String} {value : Number} {index : Int} :
    requireIndex label value = .ok index ↔ value.toInt? = some index ∧ 0 ≤ index := by
  unfold requireIndex
  cases named : value.toInt? with
  | none => simp
  | some whole =>
    by_cases positive : 0 ≤ whole
    · simp only [positive, ↓reduceIte, Except.ok.injEq, Option.some.injEq]
      constructor
      · rintro rfl
        exact ⟨rfl, positive⟩
      · exact And.left
    · simp only [positive, ↓reduceIte, reduceCtorEq, Option.some.injEq, false_iff, not_and]
      rintro rfl
      exact positive

namespace Address
variable {address : Address Number} {cell : Address Int}

theorem toInt?_eq_some_iff :
    address.toInt? = some cell ↔ address.row.toInt? = some cell.row ∧ address.column.toInt? = some cell.column := by
  cases cell
  simp only [toInt?, Option.bind_eq_bind, Option.bind_eq_some_iff, Option.some.injEq, mk.injEq]
  constructor
  · rintro ⟨_, row, _, column, rfl, rfl⟩
    exact ⟨row, column⟩
  · rintro ⟨row, column⟩
    exact ⟨_, row, _, column, rfl, rfl⟩

theorem checked_ok_iff :
    address.checked = .ok cell ↔ address.toInt? = some cell ∧ 0 ≤ cell.row ∧ 0 ≤ cell.column := by
  cases cell
  simp only [checked, bind_eq_ok_iff, requireIndex_ok_iff, toInt?_eq_some_iff, pure, Except.pure, Except.ok.injEq,
    mk.injEq]
  constructor
  · rintro ⟨row, ⟨namedRow, positiveRow⟩, column, ⟨namedColumn, positiveColumn⟩, rfl, rfl⟩
    exact ⟨⟨namedRow, namedColumn⟩, positiveRow, positiveColumn⟩
  · rintro ⟨⟨namedRow, namedColumn⟩, positiveRow, positiveColumn⟩
    exact ⟨_, ⟨namedRow, positiveRow⟩, _, ⟨namedColumn, positiveColumn⟩, rfl, rfl⟩

end Address

/-- An address that passes its check can be written. -/
theorem A1.ofAddress_of_checked {address : Address Number} {cell : Address Int}
    (passed : address.checked = .ok cell) : A1.ofAddress address = .ok (A1.write address) := by
  obtain ⟨named, row, column⟩ := Address.checked_ok_iff.mp passed
  obtain ⟨namedRow, namedColumn⟩ := Address.toInt?_eq_some_iff.mp named
  exact bind_eq_ok_iff.mpr ⟨_, requireIndex_ok_iff.mpr ⟨namedRow, row⟩,
    bind_eq_ok_iff.mpr ⟨_, requireIndex_ok_iff.mpr ⟨namedColumn, column⟩, rfl⟩⟩

namespace Range
variable {range : Range Number} {cells : Range Int}

theorem toInt?_eq_some_iff :
    range.toInt? = some cells ↔ range.top.toInt? = some cells.top ∧ range.left.toInt? = some cells.left ∧
      range.bottom.toInt? = some cells.bottom ∧ range.right.toInt? = some cells.right := by
  cases cells
  simp only [toInt?, Option.bind_eq_bind, Option.bind_eq_some_iff, Option.some.injEq, mk.injEq]
  constructor
  · rintro ⟨_, top, _, left, _, bottom, _, right, rfl, rfl, rfl, rfl⟩
    exact ⟨top, left, bottom, right⟩
  · rintro ⟨top, left, bottom, right⟩
    exact ⟨_, top, _, left, _, bottom, _, right, rfl, rfl, rfl, rfl⟩

theorem checked_ok_iff :
    range.checked = .ok cells ↔ range.toInt? = some cells ∧ 0 ≤ cells.top ∧ 0 ≤ cells.left ∧ cells.Proper := by
  cases cells with | mk t l b r => ?_
  unfold checked
  simp only [bind_eq_ok_iff, requireIndex_ok_iff, toInt?_eq_some_iff, Proper]
  constructor
  · rintro ⟨top, ⟨namedTop, positiveTop⟩, left, ⟨namedLeft, positiveLeft⟩, bottom, ⟨namedBottom, _⟩, right,
      ⟨namedRight, _⟩, accepted⟩
    split at accepted
    · cases accepted
    · rename_i proper
      cases accepted
      refine ⟨⟨namedTop, namedLeft, namedBottom, namedRight⟩, positiveTop, positiveLeft, ?_⟩
      omega
  · rintro ⟨⟨namedTop, namedLeft, namedBottom, namedRight⟩, positiveTop, positiveLeft, proper⟩
    refine ⟨_, ⟨namedTop, positiveTop⟩, _, ⟨namedLeft, positiveLeft⟩, _, ⟨namedBottom, by omega⟩, _,
      ⟨namedRight, by omega⟩, ?_⟩
    rw [if_neg (by omega)]
    rfl

end Range

namespace Sheet
variable {sheet : Sheet}

theorem inside_ok_iff {address : Address Number} {cell : Address Int} :
    sheet.inside address = .ok cell ↔ address.toInt? = some cell ∧ sheet.area.contains cell = true := by
  unfold inside
  simp only [bind_eq_ok_iff, Address.checked_ok_iff]
  constructor
  · rintro ⟨found, ⟨named, _⟩, accepted⟩
    split at accepted
    · rename_i within
      cases accepted
      exact ⟨named, within⟩
    · cases accepted
  · rintro ⟨named, within⟩
    refine ⟨cell, ⟨named, ?_⟩, ?_⟩
    · rw [Range.contains_iff] at within
      exact ⟨within.1, within.2.2.1⟩
    · rw [if_pos within]
      rfl

theorem requireLive_ok_iff {answer : Unit} : sheet.requireLive = .ok answer ↔ sheet.isDisposed = false := by
  unfold requireLive
  cases sheet.isDisposed <;> simp

theorem requireLive_ok (live : sheet.isDisposed = false) : sheet.requireLive = .ok () := requireLive_ok_iff.mpr live

theorem writable_ok_iff {address : Address Number} {cell : Address Int} :
    sheet.writable address = .ok cell ↔
      sheet.isDisposed = false ∧ address.toInt? = some cell ∧ sheet.area.contains cell = true := by
  simp only [writable, bind_eq_ok_iff, requireLive_ok_iff, inside_ok_iff, exists_const]

theorem writableRange_ok_iff {range : Range Number} {cells : Range Int} :
    sheet.writableRange range = .ok cells ↔
      sheet.isDisposed = false ∧ range.toInt? = some cells ∧ cells.Proper ∧
        sheet.area.containsRange cells = true := by
  simp only [writableRange, bind_eq_ok_iff, requireLive_ok_iff, inside_ok_iff, Range.checked_ok_iff, pure, Except.pure,
    Except.ok.injEq, exists_const]
  constructor
  · rintro ⟨live, found, ⟨named, top, left, proper⟩, corner, ⟨cornerNamed, within⟩, rfl⟩
    refine ⟨live, named, proper, ?_⟩
    rw [Address.toInt?_eq_some_iff] at cornerNamed
    rw [Range.toInt?_eq_some_iff] at named
    have row : found.bottom = corner.row := Option.some.inj (named.2.2.1.symm.trans cornerNamed.1)
    have column : found.right = corner.column := Option.some.inj (named.2.2.2.symm.trans cornerNamed.2)
    rw [Range.contains_iff] at within
    rw [Range.containsRange_iff]
    simp only [area] at within ⊢
    omega
  · rintro ⟨live, named, proper, within⟩
    rw [Range.containsRange_iff] at within
    unfold Range.Proper at proper
    simp only [area] at within
    refine ⟨live, cells, ⟨named, by omega, by omega, proper⟩, cells.bottomRight, ⟨?_, ?_⟩, rfl⟩
    · rw [Range.toInt?_eq_some_iff] at named
      exact Address.toInt?_eq_some_iff.mpr ⟨named.2.2.1, named.2.2.2⟩
    · rw [Range.contains_iff]
      simp only [area, Range.bottomRight]
      omega

theorem checked_of_writableRange {range : Range Number} {cells : Range Int}
    (passed : sheet.writableRange range = .ok cells) : range.checked = .ok cells := by
  obtain ⟨_, named, proper, within⟩ := writableRange_ok_iff.mp passed
  rw [Range.containsRange_iff] at within
  exact Range.checked_ok_iff.mpr ⟨named, within.1, within.2.2.1, proper⟩

/-- A given range that does not leave the sheet and names cells names cells of the sheet. -/
theorem containsRange_of_holds {range : Range Number} {cells : Range Int} (named : range.toInt? = some cells)
    (held : sheet.holds range = true) : sheet.area.containsRange cells = true := by
  simpa [holds, named] using held

end Sheet
end Spreadsheet
