/-! The length of text in 16-bit units: a character beyond the basic plane counts twice. -/
namespace Spreadsheet.Text

def charUnits (c : Char) : Nat := if c.toNat < 0x10000 then 1 else 2

def units : List Char → Nat
  | [] => 0
  | c :: rest => charUnits c + units rest

theorem units_append (front back : List Char) : units (front ++ back) = units front + units back := by
  induction front with
  | nil => simp [units]
  | cons c rest ih => simp [units, ih, Nat.add_assoc]

theorem length_le_units (text : List Char) : text.length ≤ units text := by
  induction text with
  | nil => simp [units]
  | cons c rest ih =>
    have one : 1 ≤ charUnits c := by unfold charUnits; split <;> omega
    simp [units]
    omega

end Spreadsheet.Text
