import Spreadsheet.Coordinate.Range

/-! Where a fill goes. A fill along rows is told as a fill along columns of the transposed sheet. -/
namespace Spreadsheet

/-- Along columns or along rows, and toward greater or lesser coordinates. -/
structure FillDirection where
  vertical : Bool
  backward : Bool

namespace FillDirection

section strip
variable {α : Type} [LT α] [DecidableLT α] [Add α] [Sub α] [OfNat α 1]

/-- A fill goes down or up rather than right or left. There is none to a destination inside the source. -/
def of? (source destination : Range α) : Option FillDirection :=
  if source.bottom < destination.bottom then some ⟨true, false⟩
  else if destination.top < source.top then some ⟨true, true⟩
  else if source.right < destination.right then some ⟨false, false⟩
  else if destination.left < source.left then some ⟨false, true⟩
  else none

/-- The cells between the source and the far edge of the destination, as wide as the source. -/
def strip (direction : FillDirection) (source destination : Range α) : Range α :=
  let source := source.oriented direction.vertical
  let destination := destination.oriented direction.vertical
  Range.oriented direction.vertical
    (if direction.backward then ⟨destination.top, source.left, source.top - 1, source.right⟩
    else ⟨source.bottom + 1, source.left, destination.bottom, source.right⟩)

end strip

/-- The direction of a fill to a given destination, and its strip, whose coordinates are as given too. -/
def toward? (source destination : Range Number) : Option (FillDirection × Range Number) :=
  (of? source destination).map fun direction => (direction, direction.strip source destination)

/-- Where a target has to end to be lengthened, away from the source, to a whole number of spans of the source, or to
the edge of the area; none if it is long enough. A length from the bound of exact numbers on is divided in rounded
arithmetic. -/
def farEnd? (direction : FillDirection) (area source target : Range Int) : Option Int :=
  let area := area.oriented direction.vertical
  let source := source.oriented direction.vertical
  let target := target.oriented direction.vertical
  let missing := -target.rows % source.rows
  if Number.safeBound ≤ target.rows.toNat then
    let span := source.toNumber.rows
    let length := target.toNumber.rows
    if ((length / span).ceil * span - length).same 0 then none else some area.bottom
  else if missing = 0 then none
  else if direction.backward then some (max (target.top - missing) area.top)
  else some (min (target.bottom + missing) area.bottom)

/-- A target with another end away from the source. -/
def endingAt (direction : FillDirection) (target : Range Number) (farEnd : Number) : Range Number :=
  let target := target.oriented direction.vertical
  Range.oriented direction.vertical
    (if direction.backward then { target with top := farEnd } else { target with bottom := farEnd })

/-- Where the walk of a fill over lines of a given source starts: each line is as given, and places along it are
plain. -/
def origin (direction : FillDirection) (source : Range Number) : Address Number :=
  (Address.mk 0 (source.oriented direction.vertical).left).oriented direction.vertical

/-- The lines of a range along the direction, each in the order in which the fill passes its cells. -/
def runs (direction : FillDirection) (range : Range Int) : List (List (Address Int)) :=
  let range := range.oriented direction.vertical
  (Range.span range.left range.right).map fun line =>
    let run := (Range.span range.top range.bottom).map fun place =>
      (Address.mk place line).oriented direction.vertical
    if direction.backward then run.reverse else run

end FillDirection
end Spreadsheet
