import Spreadsheet.Number.Basic

/-! Styles and rich text as a sheet sees them: structured content that it keeps, gives back and compares, and
never looks into. -/
namespace Spreadsheet

/-- A tree of plain content. The names in a record are distinct and their order means nothing. -/
inductive Payload where
  | null
  | flag (value : Bool)
  | number (value : Number)
  | text (content : String)
  | list (items : List Payload)
  | record (fields : List (String × Payload))
deriving Inhabited

namespace Payload

/-- Null, false, zero and the empty text: a cell that is put together leaves them out. -/
def isVoid : Payload → Bool
  | null => true
  | flag value => !value
  | number value => value.isZero || value.isNaN
  | text content => content.isEmpty
  | list _ | record _ => false

/-- No content at all. -/
def isNull : Payload → Bool
  | null => true
  | _ => false

/-- The content of a field, if there is one. -/
def field? (name : String) : Payload → Option Payload
  | record fields => fields.lookup name
  | _ => none

mutual

/-- Equal content, whatever the order of the fields. -/
def same : Payload → Payload → Bool
  | null, null => true
  | flag a, flag b => a == b
  | number a, number b => decide (a = b)
  | text a, text b => a == b
  | list items, list others => sameItems items others
  | record fields, record others => fields.length == others.length && sameFields fields others
  | _, _ => false

/-- The same contents in the same order. -/
def sameItems : List Payload → List Payload → Bool
  | [], [] => true
  | a :: items, b :: others => same a b && sameItems items others
  | _, _ => false

/-- Each field is found under its name, with the same content. -/
def sameFields : List (String × Payload) → List (String × Payload) → Bool
  | [], _ => true
  | (name, content) :: fields, others =>
    (match others.lookup name with
      | some other => same content other
      | none => false) && sameFields fields others

end

instance : BEq Payload := ⟨same⟩

end Payload
end Spreadsheet
