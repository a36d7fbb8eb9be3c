import Spreadsheet.Number.Fixed

/-! What fractions, scientific notation and serial dates ask of a number, with two ways of reckoning: rounded
to the numbers of a sheet, and exact. A definition over a scalar can be run on the first and reasoned about on
the second. -/
namespace Spreadsheet
attribute [local instance (high)] instPowNat

/-- Arithmetic with whole parts, powers of ten and decimal texts. -/
class Scalar (α : Type) extends Add α, Sub α, Mul α, Div α where
  ofInt : Int → α
  less : α → α → Bool
  same : α → α → Bool
  magnitude : α → α
  floor : α → α
  /-- The nearest whole value, a half going up. -/
  nearest : α → α
  /-- The magnitude of a finite value as a fraction. -/
  fraction? : α → Option (Nat × Nat)
  /-- The whole number that a value is, if it is one. -/
  whole? : α → Option Int
  powerOfTen : Int → α
  /-- The greatest `k` with `10 ^ k` not above a positive value; none if there is no such `k`. -/
  floorLog10? : α → Option Int
  text : α → List Char
  /-- The text with a fixed count of decimals, if it can be written. -/
  fixed? : Nat → α → Option (List Char)
  /-- The value of a decimal text. -/
  ofText : List Char → α

namespace Scalar

def atLeast {α : Type} [Scalar α] (x y : α) : Bool := less y x || same x y

instance : Scalar Number where
  ofInt := Number.ofInt
  less x y := x < y
  same := Number.same
  magnitude := Number.abs
  floor := Number.floor
  nearest := Number.round
  fraction?
    | .finite _ significand exponent _ => some (Number.fraction significand exponent)
    | _ => none
  whole? := Number.toInt?
  powerOfTen := Number.powerOfTen
  floorLog10?
    | .finite _ significand exponent _ =>
      if significand = 0 then none
      else some (Number.floorLog10 (Number.fraction significand exponent).1 (Number.fraction significand exponent).2)
    | _ => none
  text := Number.text
  fixed? := Number.fixed?
  ofText := Number.ofText

/-- The exact value of an unsigned decimal numeral. -/
def decimalRat (numeral : DecimalNumeral) : Rat :=
  let scale := numeral.exponent - numeral.places
  (Text.digitsValue numeral.digits * 10 ^ scale.toNat : Nat) / (10 ^ (-scale).toNat : Nat)

/-- The greatest `k` with `10 ^ k` not above `n / d`. Below 1 the digits of the reciprocal are counted. -/
def exactLog10 (n d : Nat) : Int :=
  if d ≤ n then (Text.numeral (n / d)).length - 1 else -(Text.numeral ((d - 1) / n)).length

instance : Scalar Rat where
  ofInt value := value
  less x y := x < y
  same x y := x == y
  magnitude x := if x < 0 then -x else x
  floor x := x.floor
  nearest x := (x + 1 / 2).floor
  fraction? x := some (x.num.natAbs, x.den)
  whole? x := if x.den = 1 then some x.num else none
  powerOfTen k := (10 ^ k.toNat : Nat) / (10 ^ (-k).toNat : Nat)
  floorLog10? x := if 0 < x then some (exactLog10 x.num.natAbs x.den) else none
  text x :=
    if x.den = 1 then Text.signedNumeral x.num
    else Text.signedNumeral x.num ++ '/' :: Text.numeral x.den
  fixed? places x := some (Number.withPlaces places (x * (10 ^ places : Nat) + 1 / 2).floor.toNat)
  ofText text := ((DecimalNumeral.read? text).map decimalRat).getD 0

end Scalar
end Spreadsheet
