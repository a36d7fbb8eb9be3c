import Spreadsheet.Cell.Value
import Spreadsheet.Cell.Payload
import Spreadsheet.Format.Basic

/-! Cells: up to four aspects, each of which may be there or not. The contents of a sheet are stamped, so that
copies of one content can be told from contents that are alike by chance. -/
namespace Spreadsheet

/-- A content of a cell. In a sheet it bears the stamp of the writing that brought it there. -/
structure Content (α : Type) where
  value : α
  stamp : Option Nat := none
deriving DecidableEq

namespace Content
variable {α : Type}

/-- The content without a stamp. -/
def plain (content : Content α) : Content α := ⟨content.value, none⟩

/-- The content with a stamp. One that is there already stays, as it does in a copy. -/
def stamped (stamp : Nat) (content : Content α) : Content α := ⟨content.value, content.stamp.or (some stamp)⟩

theorem plain_stamped (stamp : Nat) (content : Content α) : (content.stamped stamp).plain = content.plain := rfl

/-- The first stamp stays. -/
theorem stamped_stamped (first later : Nat) (content : Content α) :
    (content.stamped first).stamped later = content.stamped first := by
  cases given : content.stamp <;> simp [stamped, given]

/-- Both are copies of what one writing brought in. -/
def isCopy [BEq α] (a b : Content α) : Bool := a.stamp.isSome && a.stamp == b.stamp && a.value == b.value

end Content

/-- An aspect of a given cell. A blank one is mentioned, and has no content. -/
inductive Aspect (α : Type) where
  | absent
  | blank
  | present (content : Content α)
deriving DecidableEq

namespace Aspect
variable {α : Type}

def of (value : α) : Aspect α := present ⟨value, none⟩

def content? : Aspect α → Option (Content α)
  | present content => some content
  | _ => none

def ofContent? : Option (Content α) → Aspect α
  | some content => present content
  | none => absent

def toOption (aspect : Aspect α) : Option α := aspect.content?.map (·.value)

def ofOption : Option α → Aspect α
  | some value => of value
  | none => absent

/-- Changes the content, if there is one. -/
def map (f : Content α → Content α) : Aspect α → Aspect α
  | present content => present (f content)
  | aspect => aspect

/-- Leaves out a blank aspect, and content that is not wanted. -/
def keep (wanted : α → Bool) (aspect : Aspect α) : Aspect α :=
  ofContent? (aspect.content?.filter fun content => wanted content.value)

/-- Copies of one content or equal content, or both absent, or both blank. -/
def same [BEq α] (equal : α → α → Bool) : Aspect α → Aspect α → Bool
  | present a, present b => a.isCopy b || equal a.value b.value
  | absent, absent | blank, blank => true
  | _, _ => false

end Aspect

/-- A value, a style, a format and rich text. -/
structure Cell where
  value : Aspect CellValue := .absent
  style : Aspect Payload := .absent
  format : Aspect CellFormat := .absent
  richText : Aspect Payload := .absent

namespace Cell

/-- The cell without blank aspects, and without style and rich text that are void. -/
def tidy (cell : Cell) : Cell :=
  ⟨cell.value.keep fun _ => true, cell.style.keep (!·.isVoid), cell.format.keep fun _ => true,
    cell.richText.keep (!·.isVoid)⟩

/-- A cell with a value and no more. -/
def ofValue (value : CellValue) : Cell := { value := .of value }

/-- The cell with its contents stamped. -/
def stamped (stamp : Nat) (cell : Cell) : Cell :=
  ⟨cell.value.map (·.stamped stamp), cell.style.map (·.stamped stamp), cell.format.map (·.stamped stamp),
    cell.richText.map (·.stamped stamp)⟩

/-- The cell without the stamps of its contents. -/
def plain (cell : Cell) : Cell :=
  ⟨cell.value.map Content.plain, cell.style.map Content.plain, cell.format.map Content.plain,
    cell.richText.map Content.plain⟩

/-- No aspect has content, void style and rich text apart. -/
def isEmpty (cell : Cell) : Bool :=
  cell.value.toOption.isNone && cell.style.toOption.all Payload.isVoid && cell.format.toOption.isNone &&
    cell.richText.toOption.all Payload.isVoid

/-- Value, style and format without the rich text. -/
def withoutRichText (cell : Cell) : Cell := { cell with richText := .absent : Cell }.tidy

end Cell
end Spreadsheet
