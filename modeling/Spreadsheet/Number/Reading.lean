import Spreadsheet.Number.Basic
import Spreadsheet.Text.Blank
import Spreadsheet.Text.Digits

/-! Numerals read as numbers: decimals with an optional point and exponent, and the wider grammar of
typed numbers with white space around, infinities and whole numbers in base 2, 8 and 16. -/
namespace Spreadsheet
attribute [local instance (high)] instPowNat

/-- An unsigned decimal numeral: its digits with the point left out, how many of them follow the point,
and the exponent of ten that is written after it. -/
structure DecimalNumeral where
  digits : List Char
  places : Nat
  exponent : Int
deriving DecidableEq

namespace DecimalNumeral

/-- An exponent part `e`, an optional sign and digits, which has to end the text. No text is exponent 0. -/
def exponent? : List Char → Option Int
  | [] => some 0
  | mark :: rest =>
    if mark ≠ 'e' ∧ mark ≠ 'E' then none
    else match rest with
      | '-' :: digits => if Text.allDigits digits then some (-(Text.digitsValue digits : Int)) else none
      | '+' :: digits | digits => if Text.allDigits digits then some (Text.digitsValue digits : Int) else none

/-- Digits with an optional point, at least one digit in all, and an optional exponent part. -/
def read? (text : List Char) : Option DecimalNumeral :=
  let (whole, rest) := Text.spanDigits text
  match rest with
  | '.' :: rest =>
    let (decimals, rest) := Text.spanDigits rest
    if whole.isEmpty && decimals.isEmpty then none
    else (exponent? rest).map fun exponent => ⟨whole ++ decimals, decimals.length, exponent⟩
  | _ => if whole.isEmpty then none else (exponent? rest).map fun exponent => ⟨whole, 0, exponent⟩

/-- The nearest number. The bounds spare the power of ten where the result is infinite or zero anyway. -/
def toNumber (negative : Bool) (numeral : DecimalNumeral) : Number :=
  let value := Text.digitsValue numeral.digits
  let scale := numeral.exponent - numeral.places
  if value = 0 then .zero negative
  else if 400 < scale then .infinite negative
  else if scale + numeral.digits.length < -400 then .zero negative
  else .ofRatio negative (value * 10 ^ scale.toNat) (10 ^ (-scale).toNat)

end DecimalNumeral

namespace Number

/-- Reads an optional sign and a decimal numeral. -/
def ofDecimal? : List Char → Option Number
  | '-' :: rest => (DecimalNumeral.read? rest).map (·.toNumber true)
  | '+' :: rest => (DecimalNumeral.read? rest).map (·.toNumber false)
  | text => (DecimalNumeral.read? text).map (·.toNumber false)

/-- The value of a digit of a base up to 16. -/
def hexDigit? (c : Char) : Option Nat :=
  if c.isDigit then some (c.toNat - '0'.toNat)
  else if 'a' ≤ c ∧ c ≤ 'f' then some (c.toNat - 'a'.toNat + 10)
  else if 'A' ≤ c ∧ c ≤ 'F' then some (c.toNat - 'A'.toNat + 10)
  else none

/-- Reads digits of a base up to 16, at least one. -/
def ofBaseDigits? (base : Nat) (digits : List Char) : Option Nat :=
  if digits.isEmpty then none
  else digits.foldl
    (fun sofar c => do
      let value ← sofar
      let digit ← hexDigit? c
      if digit < base then some (value * base + digit) else none)
    (some 0)

/-- Reads a numeral without white space around it; the blank text is zero. -/
def ofTrimmed? : List Char → Option Number
  | [] => some 0
  | '0' :: mark :: digits =>
    if mark = 'x' ∨ mark = 'X' then (ofBaseDigits? 16 digits).map ofNat
    else if mark = 'o' ∨ mark = 'O' then (ofBaseDigits? 8 digits).map ofNat
    else if mark = 'b' ∨ mark = 'B' then (ofBaseDigits? 2 digits).map ofNat
    else ofDecimal? ('0' :: mark :: digits)
  | text =>
    if text = "Infinity".toList ∨ text = "+Infinity".toList then some (infinite false)
    else if text = "-Infinity".toList then some (infinite true)
    else ofDecimal? text

/-- The number a typed text stands for, white space around it left out; blank text is zero and text that
is no numeral is not-a-number. -/
def ofText (text : List Char) : Number := (ofTrimmed? (Text.trim text)).getD nan

end Number
end Spreadsheet
