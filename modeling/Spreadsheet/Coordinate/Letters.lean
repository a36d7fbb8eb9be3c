import Spreadsheet.Coordinate.Range
import Spreadsheet.Number.Shortest

/-! A1 notation as it is written: column letters count in a base of 26 that has no zero, and rows count
from 1. -/
namespace Spreadsheet.A1

def letter (index : Nat) : Char := Char.ofNat ('A'.toNat + index)

/-- The letters of the column with a number counted from 1, before letters that follow. Each letter takes one
step, and there are no more of them than the number. -/
def lettersFrom : (fuel : Nat) → (number : Nat) → List Char → List Char
  | _, 0, letters => letters
  | 0, _, letters => letters
  | fuel + 1, number + 1, letters => lettersFrom fuel (number / 26) (letter (number % 26) :: letters)

/-- `A` to `Z`, then `AA`. -/
def columnLetters (column : Nat) : List Char := lettersFrom (column + 1) (column + 1) []

/-- The letters of a column whose successor cannot be told apart from it, in rounded arithmetic. The greatest
number has fewer than 256 letters. -/
def greatLetters : (fuel : Nat) → Number → List Char → List Char
  | 0, _, letters => letters
  | fuel + 1, n, letters =>
    if 0 < n then
      let before := n - 1
      let index := ((before % 26).toInt?.getD 0).toNat
      greatLetters fuel (before / 26).floor (letter index :: letters)
    else letters

/-- The letters of any whole column that is not negative. -/
def lettersOf (column : Number) : List Char :=
  match column.toInt? with
  | some value => if value.toNat < Number.safeBound then columnLetters value.toNat else greatLetters 256 (column + 1) []
  | none => []

/-- The notation of an address with whole coordinates that are not negative. -/
def write (address : Address Number) : List Char := lettersOf address.column ++ (address.row + 1).text

/-- Two corners with a colon, or one cell alone. -/
def writeRange (range : Range Number) : List Char :=
  if range.topLeft.same range.bottomRight then write range.topLeft
  else write range.topLeft ++ ':' :: write range.bottomRight

end Spreadsheet.A1
