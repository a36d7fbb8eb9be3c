import Spreadsheet.Number.Reading

/-! Conditions in brackets: a comparison with a fixed number. -/
namespace Spreadsheet.Format

inductive Comparison where
  | less | atMost | greater | atLeast | equal | unequal
deriving DecidableEq

namespace Comparison

def symbol : Comparison → String
  | less => "<"
  | atMost => "<="
  | greater => ">"
  | atLeast => ">="
  | equal => "="
  | unequal => "<>"

/-- Longer symbols come before the shorter ones that they start with. -/
def all : List Comparison := [unequal, atMost, atLeast, less, greater, equal]

/-- A comparison at the front of a text, and what follows it. -/
def read? (text : List Char) : Option (Comparison × List Char) :=
  all.findSome? fun comparison =>
    if comparison.symbol.toList.isPrefixOf text then some (comparison, text.drop comparison.symbol.length) else none

end Comparison

structure Condition where
  comparison : Comparison
  bound : Number
deriving DecidableEq

namespace Condition

/-- Digits, with a point and more digits or not; nothing else. -/
def isPlainDecimal (text : List Char) : Bool :=
  match Text.spanDigits text with
  | (whole, '.' :: decimals) => !whole.isEmpty && Text.allDigits decimals
  | (whole, rest) => !whole.isEmpty && rest.isEmpty

/-- A comparison and a plain decimal, with a minus sign or not; white space may stand between them. -/
def read? (text : List Char) : Option Condition := do
  let (comparison, rest) ← Comparison.read? text
  let bound := Text.trimLeft rest
  let magnitude := match bound with
    | '-' :: digits => digits
    | digits => digits
  if isPlainDecimal magnitude then some ⟨comparison, .ofText bound⟩ else none

def holds (condition : Condition) (value : Number) : Bool :=
  match condition.comparison with
  | .less => value < condition.bound
  | .atMost => value ≤ condition.bound
  | .greater => condition.bound < value
  | .atLeast => condition.bound ≤ value
  | .equal => value.same condition.bound
  | .unequal => !value.same condition.bound

/-- No number that is not negative meets the condition. -/
def onlyNegatives (condition : Condition) : Bool :=
  match condition.comparison with
  | .less => condition.bound ≤ (0 : Number)
  | .atMost | .equal => condition.bound < (0 : Number)
  | _ => false

end Condition
end Spreadsheet.Format
