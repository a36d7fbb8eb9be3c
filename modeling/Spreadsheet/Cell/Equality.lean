import Spreadsheet.Cell.Basic
import Spreadsheet.Text.Units

/-! Equality of cells up to a choice of how styles and rich texts are compared. Equal scalars and copies of one
content are equal under every choice; only lists and records of their own are left to it. -/
namespace Spreadsheet
namespace Payload

/-- Two scalars with one value. The zeros are equal, and null is a scalar. -/
def sameScalar : Payload → Payload → Bool
  | null, null => true
  | flag a, flag b => a == b
  | number a, number b => a == b
  | text a, text b => a == b
  | _, _ => false

/-- Fields that are both missing, or both scalars with one value. -/
def sameField : Option Payload → Option Payload → Bool
  | none, none => true
  | some a, some b => sameScalar a b
  | _, _ => false

/-- Two styles agree on being bold: their fields of that name do. A style that is a text agrees with every other text and
with nothing else. -/
def sameWeight : Payload → Payload → Bool
  | text _, text _ => true
  | text _, _ | _, text _ => false
  | a, b => sameField (a.field? "bold") (b.field? "bold")

/-- The length of a list, or of a text in 16-bit units, or what a record has under that name. -/
def length? : Payload → Option Payload
  | list items => some (.number (.ofNat items.length))
  | text content => some (.number (.ofNat (Text.units content.toList)))
  | content => content.field? "length"

end Payload

/-- How styles and rich texts are compared. -/
structure CellEquality where
  style : Payload → Payload → Bool := Payload.same
  richText : Payload → Payload → Bool := Payload.same

namespace CellEquality

/-- Any two styles and any two rich texts are equal. -/
def lenient : CellEquality := ⟨fun _ _ => true, fun _ _ => true⟩

/-- No two lists or records are equal unless they are copies. -/
def strict : CellEquality := ⟨fun _ _ => false, fun _ _ => false⟩

/-- Styles are equal if they agree on being bold, and rich texts if they are equally long. -/
def byWeight : CellEquality := ⟨Payload.sameWeight, fun a b => Payload.sameField a.length? b.length?⟩

/-- One aspect of two cells: absent in both, or in both copies, the same scalar, or equal. A blank aspect is null. -/
def samePayload (equal : Payload → Payload → Bool) : Aspect Payload → Aspect Payload → Bool
  | .absent, .absent => true
  | .absent, _ | _, .absent => false
  | a, b =>
    let a := a.content?.getD ⟨.null, none⟩
    let b := b.content?.getD ⟨.null, none⟩
    a.isCopy b || a.value.sameScalar b.value || equal a.value b.value

/-- Equal aspects; cells without content are equal to each other and to no cell at all. -/
def same (equality : CellEquality) (a b : Option Cell) : Bool :=
  match a.filter (!·.isEmpty), b.filter (!·.isEmpty) with
  | none, none => true
  | some a, some b =>
    a.value.same CellValue.same b.value && a.format.same (fun f g => decide (f = g)) b.format &&
      samePayload equality.style a.style b.style && samePayload equality.richText a.richText b.richText
  | _, _ => false

end CellEquality
end Spreadsheet
