import Spreadsheet.Coordinate.Letters

/-! What can be wrong with a request, and the message that says so. -/
namespace Spreadsheet

/-- The least and greatest values and the types that an option may have. -/
inductive OptionIssue where
  | expected (type received : String)
  | fractional
  | below (least : Nat)
  | above (greatest : Nat)
  | notPositive
  | unknownLevel (levels : List String) (received : String)
  | malformedLocale

/-- Where an issue was found, and what it is. -/
structure Issue where
  path : Option String
  cause : OptionIssue

inductive SheetError where
  | notAnIndex (label : String) (value : Number)
  | invertedRange (range : Range Number)
  | outsideSheet (address : Address Number) (rows columns : Nat)
  | singleCellMerge (range : Range Number)
  | overlappingMerge (range existing : Range Number)
  | invalidSettings (issues : List Issue)
  | invalidDimensions (issues : List Issue)
  | malformedColumn (input : String)
  | malformedAddress (input : String)
  | rowBelowOne (input : String)
  | malformedRange (input : String)
  | disposed
  | reported (message : String)

/-- A request may have a wrong argument, be malformed notation, or come at a wrong time; a callback may report
a failure of its own. -/
inductive ErrorKind where
  | argument
  | malformed (input : String)
  | state
  | callback

namespace OptionIssue

def message : OptionIssue → String
  | expected type received => "Expected " ++ type ++ ", received " ++ received
  | fractional => "Expected integer, received float"
  | below least => "Number must be greater than or equal to " ++ toString least
  | above greatest => "Number must be less than or equal to " ++ toString greatest
  | notPositive => "Number must be greater than 0"
  | unknownLevel levels received =>
    "Invalid enum value. Expected " ++ " | ".intercalate (levels.map fun level => "\x27" ++ level ++ "\x27") ++
      ", received \x27" ++ received ++ "\x27"
  | malformedLocale => "locale code must be 1-4 hex digits"

end OptionIssue

def Issue.message (issue : Issue) : String :=
  match issue.path with
  | some path => path ++ ": " ++ issue.cause.message
  | none => issue.cause.message

namespace SheetError

/-- Issues one after another. -/
def listed (issues : List Issue) : String := "; ".intercalate (issues.map Issue.message)

/-- A row and a column as they are told in a message. -/
def corner (address : Address Number) : String :=
  "(" ++ toString address.row ++ ", " ++ toString address.column ++ ")"

def message : SheetError → String
  | notAnIndex label value => label ++ " must be a non-negative integer, got " ++ toString value
  | invertedRange range =>
    "Range end " ++ corner range.bottomRight ++ " must not precede start " ++ corner range.topLeft
  | outsideSheet address rows columns =>
    String.ofList (A1.write address) ++ " is outside the sheet (" ++ toString rows ++ " rows x " ++
      toString columns ++ " columns)"
  | singleCellMerge range =>
    "A merge must cover at least two cells: " ++ String.ofList (A1.writeRange range)
  | overlappingMerge range existing =>
    String.ofList (A1.writeRange range) ++ " overlaps existing merge " ++ String.ofList (A1.writeRange existing)
  | invalidSettings issues => "Invalid engine configuration: " ++ listed issues
  | invalidDimensions issues => "Invalid worksheet options: " ++ listed issues
  | malformedColumn input => "Invalid column letters \"" ++ input ++ "\""
  | malformedAddress input => "Invalid cell reference \"" ++ input ++ "\""
  | rowBelowOne input => "Row number must be >= 1 in \"" ++ input ++ "\""
  | malformedRange input => "Invalid range \"" ++ input ++ "\""
  | disposed => "Worksheet data has been disposed"
  | reported message => message

def kind : SheetError → ErrorKind
  | malformedColumn input | malformedAddress input | rowBelowOne input | malformedRange input => .malformed input
  | disposed => .state
  | reported _ => .callback
  | _ => .argument

end SheetError
end Spreadsheet
