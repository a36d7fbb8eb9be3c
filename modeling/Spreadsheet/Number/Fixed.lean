import Spreadsheet.Number.Shortest
import Spreadsheet.Number.Reading

/-! Numbers written with a fixed count of decimals, and cut to a count of significant digits. -/
namespace Spreadsheet.Number
attribute [local instance (high)] instPowNat

/-- The numeral of a count of units of `10 ^ -places`, with a point if there are places. -/
def withPlaces (places value : Nat) : List Char :=
  let digits := Text.padLeft (places + 1) '0' (Text.numeral value)
  let whole := digits.length - places
  if places = 0 then digits else digits.take whole ++ '.' :: digits.drop whole

/-- The most decimals that a fixed text can have. -/
def maxPlaces : Nat := 100

/-- Exactly `places` decimals of the exact value, a half going away from zero; from `1e21` on the plain text.
More than `maxPlaces` are refused. -/
def exactFixed? (places : Nat) (x : Number) : Option (List Char) :=
  if maxPlaces < places then none
  else match x with
    | finite negative significand exponent _ =>
      let (n, d) := fraction significand exponent
      if 10 ^ (21 : Nat) * d ≤ n then some x.text
      else
        let magnitude := withPlaces places ((2 * n * 10 ^ places + d) / (2 * d))
        some (if negative && significand != 0 then '-' :: magnitude else magnitude)
    | _ => some x.text

/-- Moves the decimal point by an exponent part written after the text. A text that has an exponent part of
its own is no numeral any more. -/
def shiftPoint (x : Number) (negative : Bool) (places : Nat) : Number :=
  ofText (x.text ++ 'e' :: (if negative then '-' :: Text.numeral places else Text.numeral places))

/-- A magnitude with `places` decimals, the half of a unit of the shortest decimal text going up. Great
magnitudes are written out digit by digit; an infinite one is refused. -/
def fixed? (places : Nat) (x : Number) : Option (List Char) :=
  if (1000000000000000000000 : Number) ≤ x then
    x.toInt?.map fun value =>
      Text.numeral value.natAbs ++ (if places = 0 then [] else '.' :: List.replicate places '0')
  else if x.text.contains 'e' || decide ((1000000000000000 : Number) ≤ x) then x.exactFixed? places
  else ((x.shiftPoint false places).round.shiftPoint true places).exactFixed? places

/-- The number nearest to the decimal with `count` significant digits that is nearest to a finite number, a half
going away from zero. -/
def significant (count : Nat) : Number → Number
  | x@(finite negative significand exponent _) =>
    if significand = 0 then x
    else
      let (n, d) := fraction significand exponent
      let scale := floorLog10 n d - count + 1
      let n := n * 10 ^ (-scale).toNat
      let d := d * 10 ^ scale.toNat
      let rounded := (2 * n + d) / (2 * d)
      ofRatio negative (rounded * 10 ^ scale.toNat) (10 ^ (-scale).toNat)
  | x => x

end Spreadsheet.Number
