/-! Decimal digits as text: the numeral of a natural number, the number a run of digits stands for, and
padding to a width. Digits are the ten ASCII ones. -/
namespace Spreadsheet.Text

/-- The shortest decimal numeral; zero is one digit. -/
def numeral (value : Nat) : List Char := Nat.toDigits 10 value

/-- The number that digits stand for, read from the left; the empty run is zero. -/
def digitsValue (digits : List Char) : Nat := Nat.ofDigitChars 10 digits 0

theorem digitsValue_numeral (value : Nat) : digitsValue (numeral value) = value :=
  Nat.ofDigitChars_ten_toDigits

theorem isDigit_of_mem_numeral {value : Nat} {c : Char} (member : c ∈ numeral value) : c.isDigit :=
  Nat.isDigit_of_mem_toDigits (by decide) (by decide) member

/-- A minus sign and the numeral of the magnitude. -/
def signedNumeral (value : Int) : List Char :=
  if value < 0 then '-' :: numeral value.natAbs else numeral value.natAbs

/-- A maximal run of digits at the front, and what follows it. -/
def spanDigits (text : List Char) : List Char × List Char := text.span Char.isDigit

/-- A digit in base 16, with letters of either case. -/
def isHexDigit (c : Char) : Bool := c.isDigit || ('a' ≤ c && c ≤ 'f') || ('A' ≤ c && c ≤ 'F')

def allDigits (text : List Char) : Bool := !text.isEmpty && text.all Char.isDigit

/-- Fills up on the left to at least `width` characters. -/
def padLeft (width : Nat) (fill : Char) (text : List Char) : List Char :=
  List.replicate (width - text.length) fill ++ text

theorem length_padLeft (width : Nat) (fill : Char) (text : List Char) :
    (padLeft width fill text).length = max width text.length := by
  simp [padLeft]; omega

/-- The numeral with at least two digits. -/
def twoDigits (value : Nat) : List Char := padLeft 2 '0' (numeral value)

end Spreadsheet.Text
