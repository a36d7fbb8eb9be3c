import Spreadsheet.Error
import Spreadsheet.Number.Reading

/-! Checked addresses and ranges, and A1 notation that is read and written with these checks. -/
namespace Spreadsheet

/-- Rows and columns of a sheet have to be whole and not negative. -/
def requireIndex (label : String) (value : Number) : Except SheetError Int :=
  match value.toInt? with
  | some index => if 0 ≤ index then .ok index else .error (.notAnIndex label value)
  | none => .error (.notAnIndex label value)

/-- The whole address that numbers name. -/
def Address.checked (address : Address Number) : Except SheetError (Address Int) := do
  return ⟨← requireIndex "row" address.row, ← requireIndex "col" address.column⟩

/-- The whole range that numbers name, which must not end before it starts. -/
def Range.checked (range : Range Number) : Except SheetError (Range Int) := do
  let top ← requireIndex "startRow" range.top
  let left ← requireIndex "startCol" range.left
  let bottom ← requireIndex "endRow" range.bottom
  let right ← requireIndex "endCol" range.right
  if bottom < top ∨ right < left then throw (.invertedRange range)
  return ⟨top, left, bottom, right⟩

theorem toInt?_of_requireIndex {label : String} {value : Number} {index : Int}
    (accepted : requireIndex label value = .ok index) : value.toInt? = some index := by
  unfold requireIndex at accepted
  split at accepted
  · rename_i whole named
    split at accepted <;> simp_all
  · cases accepted

/-- What a check accepts is the range that the numbers name. -/
theorem Range.toInt?_of_checked {range : Range Number} {cells : Range Int} (accepted : range.checked = .ok cells) :
    range.toInt? = some cells := by
  unfold Range.checked at accepted
  cases top : requireIndex "startRow" range.top with
  | error e => simp [top, bind, Except.bind] at accepted
  | ok t =>
    cases left : requireIndex "startCol" range.left with
    | error e => simp [top, left, bind, Except.bind] at accepted
    | ok l =>
      cases bottom : requireIndex "endRow" range.bottom with
      | error e => simp [top, left, bottom, bind, Except.bind] at accepted
      | ok b =>
        cases right : requireIndex "endCol" range.right with
        | error e => simp [top, left, bottom, right, bind, Except.bind] at accepted
        | ok r =>
          simp only [top, left, bottom, right, bind, Except.bind] at accepted
          split at accepted
          · cases accepted
          · cases accepted
            simp [Range.toInt?, toInt?_of_requireIndex top, toInt?_of_requireIndex left,
              toInt?_of_requireIndex bottom, toInt?_of_requireIndex right]

namespace A1

/-- Letters of a column given by a number. -/
def columnToLetters (column : Number) : Except SheetError (List Char) := do
  let _ ← requireIndex "col" column
  return lettersOf column

/-- The notation of an address given by numbers. -/
def ofAddress (address : Address Number) : Except SheetError (List Char) := do
  let _ ← requireIndex "row" address.row
  let _ ← requireIndex "col" address.column
  return write address

/-- The notation of a range given by numbers. Its end is looked at only if it is not its start. -/
def ofRange (range : Range Number) : Except SheetError (List Char) := do
  let start ← ofAddress range.topLeft
  if range.topLeft.same range.bottomRight then return start
  return start ++ ':' :: (← ofAddress range.bottomRight)

/-- The number of a column from its letters of either case. -/
def columnOf (letters : List Char) : Number :=
  letters.foldl (fun column c => column * 26 + .ofNat (c.toUpper.toNat - 'A'.toNat + 1)) 0 - 1

def columnOfLetters (letters : List Char) : Except SheetError Number :=
  if !letters.isEmpty && letters.all Char.isAlpha then .ok (columnOf letters)
  else .error (.malformedColumn (String.ofList letters))

/-- Leaves out a dollar sign at the start. -/
def dropDollar : List Char → List Char
  | '$' :: rest => rest
  | text => text

/-- Letters and digits, each with a dollar sign before them or not. -/
def split? (text : List Char) : Option (List Char × List Char) :=
  let (letters, rest) := (dropDollar text).span Char.isAlpha
  let digits := dropDollar rest
  if !letters.isEmpty && Text.allDigits digits then some (letters, digits) else none

/-- Reads an address; white space around it is left out. -/
def toAddress (input : List Char) : Except SheetError (Address Number) :=
  match split? (Text.trim input) with
  | none => .error (.malformedAddress (String.ofList input))
  | some (letters, digits) =>
    let row := Number.ofNat (Text.digitsValue digits)
    if row < 1 then .error (.rowBelowOne (String.ofList input)) else .ok ⟨row - 1, columnOf letters⟩

/-- Text between colons. -/
def parts : List Char → List (List Char)
  | [] => [[]]
  | ':' :: rest => [] :: parts rest
  | c :: rest =>
    match parts rest with
    | [] => [[c]]
    | first :: others => (c :: first) :: others

/-- Reads one address or two that are opposite corners. -/
def toRange (input : List Char) : Except SheetError (Range Number) := do
  let range ← match parts input with
    | [one] => do
      let corner ← toAddress one
      pure (Range.ofCorners corner corner)
    | [one, other] => do pure (Range.ofCorners (← toAddress one) (← toAddress other))
    | _ => throw (.malformedRange (String.ofList input))
  let _ ← range.checked
  return range

end A1
end Spreadsheet
