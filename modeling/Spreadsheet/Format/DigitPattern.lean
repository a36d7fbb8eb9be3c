import Spreadsheet.Text.Blank
import Spreadsheet.Text.Digits

/-! Digit patterns: what the placeholders `0`, `#` and `?` of a section say about a number, with its point,
commas, percent signs, exponent or fraction. -/
namespace Spreadsheet.Format

def isPlaceholder (c : Char) : Bool := c == '0' || c == '#' || c == '?'

def placeholders (text : List Char) : List Char := text.filter isPlaceholder

/-- An exponent: its letter in upper case or not, its sign always shown or only a minus, and its least count of
digits. -/
structure ExponentPattern where
  upper : Bool
  alwaysSign : Bool
  digits : Nat
deriving DecidableEq

/-- A denominator that is fixed, or one of as many digits as there are placeholders. -/
inductive Denominator where
  | fixed (value : Nat)
  | free (places : List Char)
deriving DecidableEq

/-- A fraction; without placeholders for a whole part it may be improper. The separator stands before the
numerator. -/
structure FractionPattern where
  integer : List Char
  separator : List Char
  numerator : List Char
  denominator : Denominator
deriving DecidableEq

/-- The text before the first placeholder and after the last one, and the parts between. Each comma of the scale
divides by a thousand. -/
structure DigitPattern where
  lead : List Char
  trail : List Char
  integer : List Char := []
  grouping : Bool := false
  scale : Nat
  hasPoint : Bool := false
  decimals : List Char := []
  percents : Nat
  exponent : Option ExponentPattern := none
  fraction : Option FractionPattern := none
deriving DecidableEq

/-- The index of the last character with a property. -/
def lastIndex? (p : Char → Bool) (text : List Char) : Option Nat :=
  (text.reverse.findIdx? p).map (text.length - 1 - ·)

namespace FractionPattern

/-- White space and a whole number that does not start with zero, at the front of a text. -/
def fixedDenominator (text : List Char) : List Char :=
  let blank := text.takeWhile Text.isBlank
  let digits := (text.drop blank.length).takeWhile Char.isDigit
  if digits.isEmpty || digits.head? == some '0' then [] else blank ++ digits

/-- The parts on the left and right of the slash. -/
def ofParts (left right : List Char) : FractionPattern :=
  let numerator := (left.reverse.takeWhile isPlaceholder).reverse
  let rest := left.take (left.length - numerator.length)
  let wholeLength := match lastIndex? isPlaceholder rest with
    | some last => last + 1
    | none => 0
  let written := Text.trim right
  let places := placeholders written
  { integer := placeholders (rest.take wholeLength)
    separator := rest.drop wholeLength
    numerator := if numerator.isEmpty then ['?'] else numerator
    denominator :=
      if !written.isEmpty && fixedDenominator written == written then .fixed (Text.digitsValue written)
      else .free (if places.isEmpty then ['?'] else places) }

end FractionPattern

namespace DigitPattern

/-- The place of an `E` with a sign. -/
def exponentAt? : List Char → Option Nat
  | [] => none
  | c :: rest =>
    if (c = 'E' ∨ c = 'e') ∧ (rest.head? = some '+' ∨ rest.head? = some '-') then some 0
    else (exponentAt? rest).map (· + 1)

/-- Where the digits start and end: the first placeholder, with a point before it, and the last one, or the last
digit of a fixed denominator after it. A body without placeholders is cut before its last character. -/
def bounds (body : List Char) : Nat × Nat :=
  let first? := (body.findIdx? isPlaceholder).map fun i =>
    if 0 < i ∧ body[i - 1]? = some '.' then i - 1 else i
  let last? := lastIndex? isPlaceholder body
  let searchStart := first?.getD 0
  let slash? := ((body.drop searchStart).findIdx? (· == '/')).map (· + searchStart)
  let past (bound : Option Nat) (slash : Nat) : Bool := bound.all (· < slash)
  let fixedEnd? := slash?.bind fun slash =>
    if past first? slash && past last? slash then
      let fixed := FractionPattern.fixedDenominator (body.drop (slash + 1))
      if fixed.isEmpty then none else some (slash + 1 + fixed.length)
    else none
  (first?.getD (body.length - 1), fixedEnd?.getD ((last?.map (· + 1)).getD 0))

/-- The pattern of the digits without their exponent part. -/
def withMantissa (pattern : DigitPattern) (mantissa : List Char) : DigitPattern :=
  let integerPart := mantissa.takeWhile (· != '.')
  let pattern := { pattern with
    grouping := integerPart.contains ',', integer := integerPart.filter (· != ',') }
  match mantissa.dropWhile (· != '.') with
  | [] => pattern
  | _ :: decimalPart =>
    { pattern with
      hasPoint := true
      decimals := placeholders decimalPart
      trail := decimalPart.filter (fun c => !isPlaceholder c && c != ',') ++ pattern.trail }

/-- The pattern of the body of a section. -/
def parse (body : List Char) : DigitPattern :=
  let (start, stop) := bounds body
  let scale := ((body.drop stop).takeWhile (· == ',')).length
  let core := (body.take stop).drop start
  let pattern : DigitPattern :=
    { lead := body.take start, trail := body.drop (stop + scale), scale, percents := body.count '%' }
  let slash := (core.takeWhile (· != '/')).length
  if 0 < slash ∧ slash < core.length then
    { pattern with fraction := some (.ofParts (core.take slash) (core.drop (slash + 1))) }
  else match exponentAt? core with
    | some place =>
      let exponent : ExponentPattern :=
        { upper := core[place]? = some 'E'
          alwaysSign := core[place + 1]? = some '+'
          digits := (placeholders (core.drop (place + 2))).length }
      withMantissa { pattern with exponent := some exponent } (core.take place)
    | none => withMantissa pattern core

end DigitPattern
end Spreadsheet.Format
