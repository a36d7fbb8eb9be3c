import Spreadsheet.Number.Basic
import Spreadsheet.Text.Digits

/-! The shortest decimal text of a number: the fewest digits that read back as it, the nearest of these,
written with a point where the exponent of ten is small and with an exponent elsewhere. -/
namespace Spreadsheet.Number
attribute [local instance (high)] instPowNat

/-- The greatest `k` with `10 ^ k ≤ numerator / denominator`, for positive arguments. The estimate from the
binary logarithm is off by one at most. -/
def floorLog10 (numerator denominator : Nat) : Int :=
  let estimate := (floorLog2 numerator denominator * 30103).fdiv 100000
  let reaches (k : Int) : Bool := 10 ^ k.toNat * denominator ≤ 10 ^ (-k).toNat * numerator
  if reaches (estimate + 1) then estimate + 1 else if reaches estimate then estimate else estimate - 1

/-- Decimal digits and the exponent of the first one: `d.ddd * 10 ^ exponent`. -/
structure Scientific where
  digits : List Char
  exponent : Int
deriving DecidableEq

/-- Twice the bounds of the fractions that round to `significand * 2 ^ (exponent - 1074)`, in units of
`2 ^ (exponent - 1076)`: below a power of two the neighbour is only half as far away. -/
def roundingBounds (significand exponent : Nat) : Nat × Nat :=
  (if significand = 2 ^ (52 : Nat) ∧ 0 < exponent then 4 * significand - 1 else 4 * significand - 2,
    4 * significand + 2)

/-- Whether `candidate * 10 ^ scale` reads back as the number; the bounds themselves do for an even
significand. -/
def readsBack (significand exponent : Nat) (scale : Int) (candidate : Nat) : Bool :=
  let (low, high) := roundingBounds significand exponent
  let unit (bound : Nat) := bound * 2 ^ (exponent - 1076) * 10 ^ (-scale).toNat
  let value := candidate * 10 ^ scale.toNat * 2 ^ (1076 - exponent)
  if significand % 2 = 0 then unit low ≤ value && value ≤ unit high
  else unit low < value && value < unit high

/-- Of the two neighbours on the grid of `10 ^ scale`, the nearer one that reads back; of two that are
equally near, the even one. -/
def candidate? (significand exponent : Nat) (scale : Int) : Option Nat :=
  let (numerator, denominator) := fraction significand exponent
  let n := numerator * 10 ^ (-scale).toNat
  let d := denominator * 10 ^ scale.toNat
  let below := n / d
  let twice := 2 * (n % d)
  let order := if twice < d ∨ (twice = d ∧ below % 2 = 0) then [below, below + 1] else [below + 1, below]
  order.find? (readsBack significand exponent scale)

/-- Looks for digits that read back, one more at a time: the digits as a number, and the exponent of the last one. -/
def searchDigits (significand exponent : Nat) (size : Int) : (fuel count : Nat) → Nat × Int
  | 0, count => (((candidate? significand exponent (size - count + 1)).getD 0), size - count + 1)
  | fuel + 1, count =>
    match candidate? significand exponent (size - count + 1) with
    | some found => (found, size - count + 1)
    | none => searchDigits significand exponent size fuel (count + 1)

/-- The shortest digits of `significand * 2 ^ (exponent - 1074)`; seventeen always suffice. -/
def shortest (significand exponent : Nat) : Scientific :=
  let (numerator, denominator) := fraction significand exponent
  let (found, scale) := searchDigits significand exponent (floorLog10 numerator denominator) 16 1
  let digits := Text.numeral found
  let kept := (digits.reverse.dropWhile (· == '0')).reverse
  ⟨kept, scale + digits.length - 1⟩

/-- Positional from `1e-6` up to below `1e21`, with an exponent part elsewhere. -/
def Scientific.text (number : Scientific) : List Char :=
  let ⟨digits, exponent⟩ := number
  if 0 ≤ exponent ∧ exponent ≤ 20 then
    let whole := exponent.toNat + 1
    if digits.length ≤ whole then digits ++ List.replicate (whole - digits.length) '0'
    else digits.take whole ++ '.' :: digits.drop whole
  else if -7 < exponent ∧ exponent < 0 then
    '0' :: '.' :: List.replicate (-exponent - 1).toNat '0' ++ digits
  else
    let mantissa := match digits with
      | [] => []
      | [digit] => [digit]
      | digit :: rest => digit :: '.' :: rest
    mantissa ++ 'e' :: (if exponent < 0 then '-' else '+') :: Text.numeral exponent.natAbs

/-- The text of a number; both zeros are `0`. -/
def text : Number → List Char
  | nan => "NaN".toList
  | infinite negative => (if negative then "-Infinity" else "Infinity").toList
  | finite negative significand exponent _ =>
    if significand = 0 then ['0']
    else
      let magnitude := (shortest significand exponent).text
      if negative then '-' :: magnitude else magnitude

instance : ToString Number := ⟨fun number => String.ofList number.text⟩

end Spreadsheet.Number
