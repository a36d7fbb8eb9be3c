import Spreadsheet.Format.DigitPattern

/-! Digits put into the placeholders of a pattern. Where digits are missing, `0` pads with a zero, `?` with a space
and `#` with nothing. -/
namespace Spreadsheet.Format

/-- What a placeholder prints where there is no digit. -/
def padding (c : Char) : List Char := if c = '0' then ['0'] else if c = '?' then [' '] else []

/-- Puts separators between groups of three digits counted from the right. -/
def groupThrees (separator : List Char) : List Char → List Char
  | [] => []
  | digit :: rest =>
    if rest.length % 3 = 0 ∧ ¬ rest.isEmpty then digit :: separator ++ groupThrees separator rest
    else digit :: groupThrees separator rest

/-- Groups the first run of digits of a text. -/
def groupDigits (separator text : List Char) : List Char :=
  let before := text.takeWhile (!·.isDigit)
  let rest := text.drop before.length
  let run := rest.takeWhile Char.isDigit
  before ++ groupThrees separator run ++ rest.drop run.length

/-- Places digits from the right; both lists are held in reverse. The last placeholder to be reached takes all the
digits that are left. -/
def placeDigits : (pattern digits : List Char) → List Char
  | [], _ => []
  | c :: pattern, digits =>
    if !isPlaceholder c then c :: placeDigits pattern digits
    else if pattern.any isPlaceholder then
      match digits with
      | digit :: digits => digit :: placeDigits pattern digits
      | [] => padding c ++ placeDigits pattern []
    else (if digits.isEmpty then padding c else digits) ++ placeDigits pattern []

/-- The whole part of a number. Digits that no placeholder is left for stand before the first one, and a pattern
with text between its placeholders is not grouped. -/
def fillInteger (digits pattern : List Char) (separator : Option (List Char)) : List Char :=
  if pattern.any isPlaceholder then
    let filled := (placeDigits pattern.reverse digits.reverse).reverse
    match separator with
    | some separator => if pattern.all isPlaceholder then groupDigits separator filled else filled
    | none => filled
  else digits ++ pattern

/-- Trailing zeros from the right, digits beside their placeholders in reverse. -/
def trimZeros : List (Char × Char) → List Char
  | [] => []
  | (digit, place) :: rest =>
    if digit ≠ '0' ∨ place = '0' then digit :: rest.map Prod.fst else padding place ++ trimZeros rest

/-- The decimals of a number. Trailing zeros vanish under `#` and become spaces under `?`. -/
def fillDecimals (digits pattern : List Char) : List Char :=
  if digits.length < pattern.length then digits
  else (trimZeros (digits.zip pattern).reverse).reverse ++ digits.drop pattern.length

/-- Fills up a numerator on the left. -/
def padLeftTo (places digits : List Char) : List Char :=
  (places.take (places.length - digits.length)).flatMap padding ++ digits

/-- Fills up a denominator on the right. -/
def padRightTo (places digits : List Char) : List Char :=
  digits ++ (places.drop digits.length).flatMap padding

end Spreadsheet.Format
