import Spreadsheet.Coordinate.Address

/-! Rectangular ranges of cells, both ends included, and their algebra. The operations compare and add
coordinates only, so they serve whole coordinates and given numbers alike. -/
namespace Spreadsheet

/-- The cells from a first row and column to a last row and column. -/
structure Range (α : Type) where
  top : α
  left : α
  bottom : α
  right : α
deriving DecidableEq

namespace Range
variable {α : Type}

def map {β : Type} (f : α → β) (range : Range α) : Range β :=
  ⟨f range.top, f range.left, f range.bottom, f range.right⟩

def single (address : Address α) : Range α := ⟨address.row, address.column, address.row, address.column⟩
def topLeft (range : Range α) : Address α := ⟨range.top, range.left⟩
def bottomRight (range : Range α) : Address α := ⟨range.bottom, range.right⟩

/-- Rows and columns exchanged. -/
def transpose (range : Range α) : Range α := ⟨range.left, range.top, range.right, range.bottom⟩

/-- The range as it is, or transposed. -/
def oriented (vertical : Bool) (range : Range α) : Range α := if vertical then range else range.transpose

section order
variable [LE α] [DecidableLE α] [LT α] [DecidableLT α]

def contains (range : Range α) (address : Address α) : Bool :=
  decide (range.top ≤ address.row) && decide (address.row ≤ range.bottom) &&
    decide (range.left ≤ address.column) && decide (address.column ≤ range.right)

def containsRange (outer inner : Range α) : Bool :=
  decide (outer.top ≤ inner.top) && decide (inner.bottom ≤ outer.bottom) &&
    decide (outer.left ≤ inner.left) && decide (inner.right ≤ outer.right)

/-- Neither range ends before the other starts. -/
def overlaps (a b : Range α) : Bool :=
  !(decide (a.bottom < b.top) || decide (b.bottom < a.top) ||
    decide (a.right < b.left) || decide (b.right < a.left))

variable [Min α] [Max α]

/-- The range between two opposite corners, in any order. -/
def ofCorners (a b : Address α) : Range α :=
  ⟨min a.row b.row, min a.column b.column, max a.row b.row, max a.column b.column⟩

def inter? (a b : Range α) : Option (Range α) :=
  if a.overlaps b then
    some ⟨max a.top b.top, max a.left b.left, min a.bottom b.bottom, min a.right b.right⟩
  else none

/-- The smallest range that covers both. -/
def union (a b : Range α) : Range α :=
  ⟨min a.top b.top, min a.left b.left, max a.bottom b.bottom, max a.right b.right⟩

/-- The smallest range that covers a range and an address. -/
def expand (range : Range α) (address : Address α) : Range α := range.union (single address)

end order

section arithmetic
variable [Add α] [Sub α] [OfNat α 1]

def rows (range : Range α) : α := range.bottom - range.top + 1
def columns (range : Range α) : α := range.right - range.left + 1
def size [Mul α] (range : Range α) : α := range.rows * range.columns

def offset (range : Range α) (rows columns : α) : Range α :=
  ⟨range.top + rows, range.left + columns, range.bottom + rows, range.right + columns⟩

end arithmetic

/-- Equal ends, for the equality of the coordinates. -/
def same [BEq α] (a b : Range α) : Bool :=
  a.top == b.top && a.left == b.left && a.bottom == b.bottom && a.right == b.right

/-- The whole numbers from `first` to `last`. -/
def span (first last : Int) : List Int := (List.range (last - first + 1).toNat).map fun (step : Nat) => first + step

/-- The cells in row-major order. -/
def cells (range : Range Int) : List (Address Int) :=
  (span range.top range.bottom).flatMap fun row => (span range.left range.right).map (Address.mk row)

/-- What the first of `count` whole numbers from `first` on that has it has. -/
def searchSpan {β : Type} (f : Int → Option β) : (count : Nat) → (first : Int) → Option β
  | 0, _ => none
  | count + 1, first => (f first).or (searchSpan f count (first + 1))

/-- What the first cell in row-major order that has it has. The cells are not listed. -/
def findSome? {β : Type} (range : Range Int) (f : Address Int → Option β) : Option β :=
  searchSpan (fun row => searchSpan (fun column => f ⟨row, column⟩) range.columns.toNat range.left)
    range.rows.toNat range.top

/-- The range with whole coordinates that given numbers name, if they do. -/
def toInt? (range : Range Number) : Option (Range Int) := do
  some ⟨← range.top.toInt?, ← range.left.toInt?, ← range.bottom.toInt?, ← range.right.toInt?⟩

def toNumber (range : Range Int) : Range Number := range.map .ofInt

/-- The range moved along with an address. -/
def moved (range : Range Number) (start stop : Address Number) : Range Number :=
  range.offset (stop.row - start.row) (stop.column - start.column)

/-- Numbers from `first` up to `last` in steps of one, of which there are at most as many as the fuel. -/
def steps (last : Number) : (fuel : Nat) → Number → List Number
  | 0, _ => []
  | fuel + 1, current => if current ≤ last then current :: steps last fuel (current + 1) else []

/-- At least as many steps of one as lead from `first` past `last`. -/
def stepCount (first last : Number) : Nat :=
  match (last - first).truncate? with
  | some length => (length + 2).toNat
  | none => 0

/-- The addresses reached from the first row and column in steps of one, in row-major order. -/
def reached (range : Range Number) : List (Address Number) :=
  (steps range.bottom (stepCount range.top range.bottom) range.top).flatMap fun row =>
    (steps range.right (stepCount range.left range.right) range.left).map (Address.mk row)

/-- The addresses of a given range in row-major order. -/
def addresses (range : Range Number) : List (Address Number) :=
  match range.toInt? with
  | some cells => cells.cells.map (·.walkedFrom range.topLeft)
  | none => range.reached

end Range
end Spreadsheet
