import Spreadsheet.Coordinate.A1

/-! What subscribers are told of a sheet. -/
namespace Spreadsheet

inductive Change (α : Type) where
  | cellValue (cell : Address α)
  | cellStyle (cell : Address α)
  | cellFormat (cell : Address α)
  | range (range : Range α)
  | merge (range : Range α)
  | unmerge (range : Range α)
  | rowInserted (index : α)
  | rowDeleted (index : α)
  | columnInserted (index : α)
  | columnDeleted (index : α)
  | reset
deriving DecidableEq

namespace Change

def map {α β : Type} (f : α → β) : Change α → Change β
  | cellValue cell => .cellValue (cell.map f)
  | cellStyle cell => .cellStyle (cell.map f)
  | cellFormat cell => .cellFormat (cell.map f)
  | range area => .range (area.map f)
  | merge area => .merge (area.map f)
  | unmerge area => .unmerge (area.map f)
  | rowInserted index => .rowInserted (f index)
  | rowDeleted index => .rowDeleted (f index)
  | columnInserted index => .columnInserted (f index)
  | columnDeleted index => .columnDeleted (f index)
  | reset => .reset

def toNumber (change : Change Int) : Change Number := change.map .ofInt

/-- The kind of a change and what it is about. -/
def titled (title : String) (content : List Char) : String :=
  "DataChangeEvent." ++ title ++ "(" ++ String.ofList content ++ ")"

/-- The text of a change. Cells and ranges have to be writable in A1 notation; indexes print as they are. -/
def describe : Change Number → Except SheetError String
  | cellValue cell => (A1.ofAddress cell).map (titled "cellValue")
  | cellStyle cell => (A1.ofAddress cell).map (titled "cellStyle")
  | cellFormat cell => (A1.ofAddress cell).map (titled "cellFormat")
  | range area => (A1.ofRange area).map (titled "range")
  | merge area => (A1.ofRange area).map (titled "merge")
  | unmerge area => (A1.ofRange area).map (titled "unmerge")
  | rowInserted index => .ok (titled "rowInserted" index.text)
  | rowDeleted index => .ok (titled "rowDeleted" index.text)
  | columnInserted index => .ok (titled "columnInserted" index.text)
  | columnDeleted index => .ok (titled "columnDeleted" index.text)
  | reset => .ok (titled "reset" [])

end Change
end Spreadsheet
