import Spreadsheet.Feed.Basic
import Spreadsheet.Feed.Change
import Spreadsheet.Sheet.Basic

/-! Work on a sheet that has subscribers: requests, checks, and batches, in which writes are not published one by
one. -/
namespace Spreadsheet

/-- Makes the cell for a target address from the cell of the source that belongs to it. It may fail. -/
abbrev Generator := Address Number → Option Cell → Except SheetError (Option Cell)

/-- What can be asked of a sheet. A callback of a batch asks for several things; it may catch the failure of some,
and may give up by itself. -/
inductive SheetRequest where
  | setValue (address : Address Number) (value : Option CellValue)
  | setStyle (address : Address Number) (style : Option Payload)
  | setFormat (address : Address Number) (format : Option CellFormat)
  | setRichText (address : Address Number) (richText : Option Payload)
  | setCell (address : Address Number) (cell : Option Cell)
  | clearRange (range : Range Number)
  | clearValues (range : Range Number)
  | clearStyles (range : Range Number)
  | clearFormats (range : Range Number)
  | fillWithCell (range : Range Number) (cell : Option Cell)
  | copyRange (source : Range Number) (destination : Address Number)
  | fillRange (source : Address Number) (target : Range Number) (generator : Option Generator)
  | smartFill (source destination : Range Number) (generator : Option Generator)
  | merge (range : Range Number)
  | unmerge (address : Address Number)
  | unmergeInRange (range : Range Number)
  | moveMerges (source : Range Number) (destination : Address Number)
  | replicateMerges (source target : Range Number) (vertical : Bool)
  | clear
  | beginBatch
  | endBatch
  | batch (requests : List SheetRequest)
  | attempt (requests : List SheetRequest)
  | giveUp (error : SheetError)
  | dispose

/-- A computation on a sheet and its feed. -/
abbrev Session := Run (Change Int) SheetRequest Sheet

/-- How the subscribers of a sheet are told of a change. -/
abbrev Publisher := Change Int → Session Unit

namespace Session

def sheet : Session Sheet := Run.state

def modifySheet (f : Sheet → Sheet) : Session Unit := Run.modifyState f

def modifyGrid (f : Grid → Grid) : Session Unit := modifySheet fun sheet => { sheet with grid := f sheet.grid }

/-- Looks at the sheet, and fails as it says. -/
def check {α : Type} (f : Sheet → Except SheetError α) : Session α := do Run.lift (f (← sheet))

/-- Publishes a change of an area. In a batch the pending range grows instead. -/
def notify (publish : Publisher) (area : Range Int) (change : Change Int) : Session Unit := do
  if (← sheet).openBatches = 0 then publish change
  else
    modifySheet fun sheet =>
      { sheet with pending := some ((sheet.pending.map (·.union area)).getD area) }

/-- Opens a batch. -/
def beginBatch : Session Unit := do
  check Sheet.requireLive
  modifySheet fun sheet => { sheet with openBatches := sheet.openBatches + 1 }

/-- Closes a batch. The last one to be closed publishes what is pending. -/
def endBatch (publish : Publisher) : Session Unit := do
  modifySheet fun sheet => { sheet with openBatches := sheet.openBatches - 1 }
  let sheet ← sheet
  match sheet.pending with
  | none => pure ()
  | some range =>
    if sheet.openBatches = 0 then
      modifySheet fun sheet => { sheet with pending := none }
      publish (.range range)

/-- Runs a body in a batch, which is closed even if the body fails. -/
def batch {α : Type} (publish : Publisher) (body : Session α) : Session α := do
  beginBatch
  let result ← Run.attempt body
  endBatch publish
  Run.lift result

end Session
end Spreadsheet
