import Spreadsheet.Number.Basic

/-! Addresses of cells. Rows and columns are counted from 0; they are whole numbers inside a sheet and any
numbers where a caller gives them. -/
namespace Spreadsheet

/-- A row and a column. -/
structure Address (α : Type) where
  row : α
  column : α
deriving DecidableEq

namespace Address

def map {α β : Type} (f : α → β) (address : Address α) : Address β := ⟨f address.row, f address.column⟩

/-- The same row and column, for the equality of the coordinates. -/
def same {α : Type} [BEq α] (a b : Address α) : Bool := a.row == b.row && a.column == b.column

/-- Row and column exchanged. -/
def transpose {α : Type} (address : Address α) : Address α := ⟨address.column, address.row⟩

/-- The address as it is, or transposed, so that work along rows can be told as work along columns. -/
def oriented {α : Type} (vertical : Bool) (address : Address α) : Address α :=
  if vertical then address else address.transpose

/-- By row, and by column within a row. -/
def rowMajor (a b : Address Int) : Ordering := compareLex (compareOn Address.row) (compareOn Address.column) a b

instance : Std.TransCmp rowMajor :=
  inferInstanceAs (Std.TransCmp (compareLex (compareOn Address.row) (compareOn (α := Address Int) Address.column)))

instance : Std.LawfulEqCmp rowMajor where
  eq_of_compare {a b} equal := by
    cases a; cases b
    simp only [rowMajor, compareLex, compareOn, Ordering.then_eq_eq, Std.LawfulEqCmp.compare_eq_iff_eq] at equal
    simp [equal]

/-- The address with whole coordinates that given numbers name, if they do. -/
def toInt? (address : Address Number) : Option (Address Int) := do
  some ⟨← address.row.toInt?, ← address.column.toInt?⟩

def toNumber (address : Address Int) : Address Number := address.map .ofInt

/-- A whole coordinate where a walk by steps of one from a given one reaches it: the first one is as it was given, with
the sign of its zero, and the others are plain. -/
def walkedTo (first : Number) (place : Int) : Number := if first.toInt? = some place then first else .ofInt place

/-- A cell where a walk along rows and columns from a given first one reaches it. -/
def walkedFrom (cell : Address Int) (first : Address Number) : Address Number :=
  ⟨walkedTo first.row cell.row, walkedTo first.column cell.column⟩

end Address
end Spreadsheet
