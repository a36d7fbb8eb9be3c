import Spreadsheet.Feed.Basic
import Spreadsheet.Feed.Change

/-! A feed without a sheet: events are emitted on request. -/
namespace Spreadsheet

inductive FeedRequest where
  | emit (change : Change Number)
  | close

/-- A host without a state of its own. -/
def bareFeed : Host (Change Number) FeedRequest Unit where
  describe := Change.describe
  perform publish close
    | .emit change => publish change
    | .close => close

end Spreadsheet
