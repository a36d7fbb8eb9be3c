import Spreadsheet.Coordinate.Range

/-! Copies of ranges, laid side by side along an axis. A tile is as long as the source of the copies; only whole
tiles are laid. -/
namespace Spreadsheet.Tiling

section lattice
variable {α : Type} [Add α] [Sub α] [OfNat α 0] [OfNat α 1] [LE α] [DecidableLE α] [LT α] [DecidableLT α]

/-- Where tiles start that are laid toward greater coordinates. There are no more of them than the fuel. -/
def forward (length last : α) : (fuel : Nat) → (start : α) → List α
  | 0, _ => []
  | fuel + 1, start => if start + length - 1 ≤ last then start :: forward length last fuel (start + length) else []

/-- Where tiles start that are laid toward lesser coordinates, from the last coordinate given. -/
def backward (length first : α) : (fuel : Nat) → (last : α) → List α
  | 0, _ => []
  | fuel + 1, last =>
    if first ≤ last - length + 1 then (last - length + 1) :: backward length first fuel (last - length) else []

/-- Tiles in a target that ends above the source are laid from its end, others from its start. -/
def starts (fuel : Nat) (source target : Range α) : List α :=
  if target.bottom < source.top then backward source.rows target.top fuel target.bottom
  else forward source.rows target.bottom fuel target.top

/-- Copies of ranges down or up a target, where they stay inside it. -/
def copies (fuel : Nat) (source target : Range α) (ranges : List (Range α)) : List (Range α) :=
  (starts fuel source target).flatMap fun start =>
    (ranges.map (·.offset (start - source.top) 0)).filter target.containsRange

end lattice

/-- Copies of ranges along an axis of a target. A tile has at least one cell, so there are no more tiles than cells
along the axis. -/
def replicas (source target : Range Number) (vertical : Bool) (ranges : List (Range Number)) : List (Range Number) :=
  let target := target.oriented vertical
  let fuel := (target.rows.truncate?.getD 0).toNat + 1
  (copies fuel (source.oriented vertical) target (ranges.map (·.oriented vertical))).map (·.oriented vertical)

end Spreadsheet.Tiling
