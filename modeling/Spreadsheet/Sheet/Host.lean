import Spreadsheet.Sheet.Filling
import Spreadsheet.Sheet.Writing

/-! The host of a sheet: every request that can be made, also by a subscriber. -/
namespace Spreadsheet
namespace Session

/-- Ends the sheet and its feed, once. -/
def dispose (close : Session Unit) : Session Unit := do
  if (← sheet).isDisposed then return
  modifySheet fun sheet => { sheet with isDisposed := true }
  close

mutual

def perform (publish : Publisher) (close : Session Unit) : SheetRequest → Session Unit
  | .setValue address value => setValue publish address value
  | .setStyle address style => setStyle publish address style
  | .setFormat address format => setFormat publish address format
  | .setRichText address richText => setRichText publish address richText
  | .setCell address cell => setCell publish address cell
  | .clearRange range => clearRange publish range
  | .clearValues range => clearValues publish range
  | .clearStyles range => clearStyles publish range
  | .clearFormats range => clearFormats publish range
  | .fillWithCell range cell => fillWithCell publish range cell
  | .copyRange source destination => copyRange publish source destination
  | .fillRange source target generator => fillRange publish source target generator
  | .smartFill source destination generator => do
    let _ ← smartFill publish source destination generator
  | .merge range => do
    let _ ← merge publish range
  | .unmerge address => do
    let _ ← unmerge publish address
  | .unmergeInRange range => do
    let _ ← unmergeInRange publish range
  | .moveMerges source destination => do
    let _ ← moveMerges publish source destination
  | .replicateMerges source target vertical => do
    let _ ← replicateMerges publish source target vertical
  | .clear => clear publish
  | .beginBatch => beginBatch
  | .endBatch => endBatch publish
  | .batch requests => batch publish (performAll publish close requests)
  | .attempt requests => do
    let _ ← Run.attempt (performAll publish close requests)
  | .giveUp error => throw error
  | .dispose => dispose close

/-- Performs requests until one fails. -/
def performAll (publish : Publisher) (close : Session Unit) : List SheetRequest → Session Unit
  | [] => pure ()
  | request :: rest => do
    perform publish close request
    performAll publish close rest

end

end Session

/-- A sheet with its subscribers. -/
def sheetHost : Host (Change Int) SheetRequest Sheet where
  describe change := change.toNumber.describe
  perform := Session.perform

end Spreadsheet
