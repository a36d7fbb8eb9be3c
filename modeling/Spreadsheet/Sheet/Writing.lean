import Spreadsheet.Sheet.Session

/-! Writing of cells. Each request checks all of its arguments, changes the contents, and tells what it changed. -/
namespace Spreadsheet.Session

/-- Changes one cell by one writing. -/
def editCell (publish : Publisher) (address : Address Number) (change : Address Int → Change Int)
    (put : Nat → Grid → Address Int → Grid) : Session Unit := do
  let cell ← check (·.writable address)
  modifySheet (·.write fun stamp grid => put stamp grid cell)
  notify publish (.single cell) (change cell)

def setValue (publish : Publisher) (address : Address Number) (value : Option CellValue) : Session Unit :=
  editCell publish address .cellValue fun stamp grid cell => grid.putValue cell (value.map (⟨·, some stamp⟩))

def setStyle (publish : Publisher) (address : Address Number) (style : Option Payload) : Session Unit :=
  editCell publish address .cellStyle fun stamp grid cell => grid.putStyle cell (style.map (⟨·, some stamp⟩))

def setFormat (publish : Publisher) (address : Address Number) (format : Option CellFormat) : Session Unit :=
  editCell publish address .cellFormat fun stamp grid cell => grid.putFormat cell (format.map (⟨·, some stamp⟩))

/-- Rich text is content, so its change is told as that of a value. -/
def setRichText (publish : Publisher) (address : Address Number) (richText : Option Payload) : Session Unit :=
  editCell publish address .cellValue fun stamp grid cell => grid.putRichText cell (richText.map (⟨·, some stamp⟩))

/-- Replaces all aspects of a cell. -/
def setCell (publish : Publisher) (address : Address Number) (content : Option Cell) : Session Unit :=
  editCell publish address (fun cell => .range (.single cell)) fun stamp grid cell =>
    grid.putCell cell (content.map (·.stamped stamp))

/-- Changes a range by one writing. The whole range is told, whatever was in it. -/
def editRange (publish : Publisher) (range : Range Number) (put : Nat → Grid → Range Int → Grid) : Session Unit := do
  let range ← check (·.writableRange range)
  modifySheet (·.write fun stamp grid => put stamp grid range)
  notify publish range (.range range)

def clearRange (publish : Publisher) (range : Range Number) : Session Unit :=
  editRange publish range fun _ grid range => grid.erase (grid.populatedIn range)

/-- Removes values and rich texts, and keeps styles and formats. -/
def clearValues (publish : Publisher) (range : Range Number) : Session Unit :=
  editRange publish range fun _ grid range => grid.eraseValues (grid.populatedIn range)

def clearStyles (publish : Publisher) (range : Range Number) : Session Unit :=
  editRange publish range fun _ grid range => grid.eraseStyles (grid.populatedIn range)

def clearFormats (publish : Publisher) (range : Range Number) : Session Unit :=
  editRange publish range fun _ grid range => grid.eraseFormats (grid.populatedIn range)

/-- Puts copies of one cell into a whole range. -/
def fillWithCell (publish : Publisher) (range : Range Number) (cell : Option Cell) : Session Unit :=
  editRange publish range fun stamp grid range => grid.fill range (cell.map (·.stamped stamp))

/-- Copies a range to where it starts at the destination; source and target may overlap. -/
def copyRange (publish : Publisher) (source : Range Number) (destination : Address Number) : Session Unit := do
  let given := source.moved source.topLeft destination
  let source ← check (·.writableRange source)
  let target ← check (·.writableRange given)
  modifyGrid (·.copy source target.topLeft)
  notify publish target (.range target)

/-- Empties the sheet and removes its merged regions. This is told at once, also in a batch. -/
def clear (publish : Publisher) : Session Unit := do
  check Sheet.requireLive
  modifySheet fun sheet => { sheet with grid := {}, merges := {} }
  publish .reset

end Spreadsheet.Session
