import Spreadsheet.Coordinate.Address
import Spreadsheet.Number.Shortest
import Spreadsheet.Number.Reading
import Spreadsheet.Text.Units

/-! Keys of cells: the row, an underscore and the column. -/
namespace Spreadsheet.Address

def key (address : Address Number) : List Char := address.row.text ++ '_' :: address.column.text

/-- The row of a key without an underscore: the key but for its last unit. Half a character, which is left of one
of two units, makes no number any more than the whole character does. -/
def rowOfKey (key : List Char) : Number :=
  .ofText (if key.getLast?.any (Text.charUnits · = 1) then key.dropLast else key)

/-- Reads a key by its first underscore. A key without one is the column as a whole. -/
def ofKey (key : List Char) : Address Number :=
  if key.contains '_' then
    ⟨.ofText (key.takeWhile (· != '_')), .ofText ((key.dropWhile (· != '_')).drop 1)⟩
  else ⟨rowOfKey key, .ofText key⟩

end Spreadsheet.Address
