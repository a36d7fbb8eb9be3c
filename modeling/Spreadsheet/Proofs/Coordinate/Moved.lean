import Spreadsheet.Proofs.Coordinate.Checked
import Spreadsheet.Proofs.Number.Rounding

/-! Where a range goes that moves along with its first cell. The move is told by rounded sums, of which small whole ones
are exact enough: the range keeps its shape, and it starts at the cell that was asked for. -/
namespace Spreadsheet.Range
variable {range : Range Number} {cells target : Range Int} {start stop : Address Number}

/-- The coordinates of a range are inside the greatest dimensions of a sheet by far. -/
def IsSmall (range : Range Int) : Prop :=
  range.top.natAbs < 2 ^ 50 ∧ range.left.natAbs < 2 ^ 50 ∧ range.bottom.natAbs < 2 ^ 50 ∧ range.right.natAbs < 2 ^ 50

/-- The range of the same shape that starts at a cell. -/
def startingAt (range : Range Int) (cell : Address Int) : Range Int :=
  ⟨cell.row, cell.column, cell.row + (range.bottom - range.top), cell.column + (range.right - range.left)⟩

/-- A range keeps its shape, whatever the numbers are by which it moves. -/
theorem shape_of_moved (named : range.toInt? = some cells) (arrived : (range.moved start stop).toInt? = some target)
    (small : target.IsSmall) :
    target.bottom - target.top = cells.bottom - cells.top ∧
      target.right - target.left = cells.right - cells.left := by
  obtain ⟨top, left, bottom, right⟩ := toInt?_eq_some_iff.mp named
  obtain ⟨toTop, toLeft, toBottom, toRight⟩ := toInt?_eq_some_iff.mp arrived
  obtain ⟨smallTop, smallLeft, smallBottom, smallRight⟩ := small
  exact ⟨Number.sub_of_toInt?_add top bottom toTop toBottom (by omega) (by omega),
    Number.sub_of_toInt?_add left right toLeft toRight (by omega) (by omega)⟩

/-- A range that moves along with its first cell starts where that cell goes. -/
theorem topLeft_of_moved {cell : Address Int} (named : range.toInt? = some cells)
    (destination : stop.toInt? = some cell) (arrived : (range.moved range.topLeft stop).toInt? = some target)
    (short : cells.IsSmall) (small : target.IsSmall) : target.topLeft = cell := by
  obtain ⟨top, left, _⟩ := toInt?_eq_some_iff.mp named
  obtain ⟨row, column⟩ := Address.toInt?_eq_some_iff.mp destination
  obtain ⟨toTop, toLeft, _⟩ := toInt?_eq_some_iff.mp arrived
  have sameRow := Number.eq_of_toInt?_add_sub top row toTop short.1 small.1
  have sameColumn := Number.eq_of_toInt?_add_sub left column toLeft short.2.1 small.2.1
  simp only [topLeft, sameRow, sameColumn]

private theorem toInt?_add_small {x y : Number} {a k : Int} (named : x.toInt? = some a) (shift : y.toInt? = some k)
    (small : a.natAbs < 2 ^ 50) (near : k.natAbs < 2 ^ 52) : (x + y).toInt? = some (a + k) :=
  Number.toInt?_add named shift (by omega)

/-- Small whole shifts are exact. -/
theorem toInt?_offset {x y : Number} {k l : Int} (named : range.toInt? = some cells) (small : cells.IsSmall)
    (down : x.toInt? = some k) (along : y.toInt? = some l) (near : k.natAbs < 2 ^ 52) (short : l.natAbs < 2 ^ 52) :
    (range.offset x y).toInt? = some (cells.offset k l) := by
  obtain ⟨top, left, bottom, right⟩ := toInt?_eq_some_iff.mp named
  obtain ⟨smallTop, smallLeft, smallBottom, smallRight⟩ := small
  exact toInt?_eq_some_iff.mpr ⟨toInt?_add_small top down smallTop near, toInt?_add_small left along smallLeft short,
    toInt?_add_small bottom down smallBottom near, toInt?_add_small right along smallRight short⟩

private theorem natAbs_sub_small {a b : Int} (first : a.natAbs < 2 ^ 50) (second : b.natAbs < 2 ^ 50) :
    (a - b).natAbs < 2 ^ 52 := by omega

/-- A range that moves along with some cell. -/
theorem toInt?_moved_along {first last : Address Int} (named : range.toInt? = some cells) (small : cells.IsSmall)
    (begins : start.toInt? = some first) (ends : stop.toInt? = some last) (near : (single first).IsSmall)
    (far : (single last).IsSmall) :
    (range.moved start stop).toInt? = some (cells.offset (last.row - first.row) (last.column - first.column)) := by
  obtain ⟨startRow, startColumn⟩ := Address.toInt?_eq_some_iff.mp begins
  obtain ⟨stopRow, stopColumn⟩ := Address.toInt?_eq_some_iff.mp ends
  obtain ⟨nearRow, nearColumn, _⟩ := near
  obtain ⟨farRow, farColumn, _⟩ := far
  have rows : (last.row - first.row).natAbs < 2 ^ 52 := natAbs_sub_small farRow nearRow
  have columns : (last.column - first.column).natAbs < 2 ^ 52 := natAbs_sub_small farColumn nearColumn
  exact toInt?_offset named small (Number.toInt?_sub stopRow startRow (Nat.lt_trans rows (by decide)))
    (Number.toInt?_sub stopColumn startColumn (Nat.lt_trans columns (by decide))) rows columns

/-- A range that has room where its first cell goes arrives there. -/
theorem toInt?_moved {cell : Address Int} (named : range.toInt? = some cells) (destination : stop.toInt? = some cell)
    (short : cells.IsSmall) (small : (cells.startingAt cell).IsSmall) :
    (range.moved range.topLeft stop).toInt? = some (cells.startingAt cell) := by
  obtain ⟨top, left, _⟩ := toInt?_eq_some_iff.mp named
  have begins : range.topLeft.toInt? = some cells.topLeft := Address.toInt?_eq_some_iff.mpr ⟨top, left⟩
  rw [toInt?_moved_along named short begins destination ⟨short.1, short.2.1, short.1, short.2.1⟩
    ⟨small.1, small.2.1, small.1, small.2.1⟩]
  simp only [offset, startingAt, topLeft, Option.some.injEq, mk.injEq]
  omega

/-- Where a range arrives is where its first cell goes. -/
theorem eq_startingAt_of_moved {cell : Address Int} (named : range.toInt? = some cells)
    (destination : stop.toInt? = some cell) (arrived : (range.moved range.topLeft stop).toInt? = some target)
    (short : cells.IsSmall) (small : target.IsSmall) : target = cells.startingAt cell := by
  have start := topLeft_of_moved named destination arrived short small
  obtain ⟨height, width⟩ := shape_of_moved named arrived small
  have row : target.top = cell.row := congrArg Address.row start
  have column : target.left = cell.column := congrArg Address.column start
  cases target
  simp only [startingAt, mk.injEq] at *
  omega

end Spreadsheet.Range
