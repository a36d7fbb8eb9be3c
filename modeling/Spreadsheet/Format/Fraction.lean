import Spreadsheet.Format.Template
import Spreadsheet.Number.Scalar

/-! Fractions: the closest one with a bounded denominator, and the text of a number as a whole part and a
fraction. -/
namespace Spreadsheet.Format
attribute [local instance (high)] instPowNat

/-- The best fraction so far and its distance from the value. -/
structure Approximation (α : Type) where
  numerator : α
  denominator : Nat
  error : α

variable {α : Type} [Scalar α]

/-- Distances of fractions from a value are estimated in units of one part of this. -/
@[noinline] def grid : Nat := 2 ^ (60 : Nat)

/-- An error in units of the grid, rounded up, with room for the estimate itself and for what rounded arithmetic on
`n / d` can be off by. Nothing is far for an error that is not finite. -/
def errorBound (n d : Nat) (error : α) : Nat :=
  match Scalar.fraction? error with
  | some (above, below) => above * grid / below + 3 + (n * grid / d + grid) / 2 ^ (52 : Nat)
  | none => grid

/-- The rest of one more multiple of a value, from the rests of one multiple and of the value itself. -/
def nextRest (step rest : Nat) : Nat := if rest + step < grid then rest + step else rest + step - grid

/-- No fraction over a denominator comes as close to a value as a bound. The rest of the multiple of the value by the
denominator is then too far from zero and from the grid. -/
def isFar (bound denominator rest : Nat) : Bool := denominator * bound < min rest (grid - rest)

/-- The closest fraction over a denominator is one over a divisor of it, which is so close that it is the closest over
the multiple too. -/
def repeats (bound divisor denominator : Nat) : Bool := 2 * denominator * bound < grid && denominator % divisor == 0

/-- A denominator, not above a bound, over which a fraction comes close to a value: that of the last convergent of its
continued fraction, or of the last fraction between two convergents. The first two numbers are what is left of the
division of the value, the others are the denominators of the last two convergents. -/
def closeDenominator (maxDenominator left divisor before current : Nat) : Nat :=
  if _finished : divisor = 0 then current
  else
    let next := left / divisor * current + before
    let count := (maxDenominator - before) / current
    if next ≤ maxDenominator then closeDenominator maxDenominator divisor (left % divisor) current next
    else if left / divisor < 2 * count then count * current + before
    else current
termination_by divisor
decreasing_by exact Nat.mod_lt _ (Nat.pos_of_ne_zero _finished)

/-- Puts the nearest numerator over a denominator in place of the best fraction if its error is smaller. -/
def tryDenominator (value : α) (denominator : Nat) (best : Approximation α) : Approximation α :=
  let divisor : α := Scalar.ofInt denominator
  let numerator := Scalar.nearest (value * divisor)
  let error := Scalar.magnitude (value - numerator / divisor)
  if Scalar.less error best.error then ⟨numerator, denominator, error⟩ else best

/-- Tries each denominator from the given one on, as many as the fuel says, but for those that are farther from the
value than what is aimed at, and those over which the best fraction would only be repeated. No error at all ends the
search. -/
@[specialize] def improve (value : α) (n d step aim : Nat) : (fuel denominator rest bound : Nat) →
    Approximation α → Approximation α
  | 0, _, _, _, best => best
  | fuel + 1, denominator, rest, bound, best =>
    if isFar aim denominator rest || repeats bound best.denominator denominator then
      improve value n d step aim fuel (denominator + 1) (nextRest step rest) bound best
    else
      let best := tryDenominator value denominator best
      if Scalar.less (Scalar.ofInt 0) best.error then
        improve value n d step aim fuel (denominator + 1) (nextRest step rest) (errorBound n d best.error) best
      else best

/-- The closest fraction whose denominator is not above a bound, in lowest terms; of equally close ones the one with
the smallest denominator. It is at least as close as the one that the search aims at. A value that is not finite has
none. -/
def closestFraction? (value : α) (maxDenominator : Nat) : Option (Int × Nat) := do
  let numerator := Scalar.nearest value
  let (n, d) ← Scalar.fraction? value
  let whole : Approximation α := ⟨numerator, 1, Scalar.magnitude (value - numerator)⟩
  let aim := tryDenominator value (closeDenominator maxDenominator d (n % d) 0 1) whole
  let step := n % d * grid / d
  let best :=
    if Scalar.less (Scalar.ofInt 0) whole.error then
      improve value n d step (errorBound n d aim.error) (maxDenominator - 1) 2 (nextRest step step)
        (errorBound n d whole.error) whole
    else whole
  let numerator ← Scalar.whole? best.numerator
  let divisor := Nat.gcd numerator.natAbs best.denominator
  return (numerator / divisor, best.denominator / divisor)

/-- The numerator and denominator of the part of a value that a fraction shows. -/
def fractionParts? (remainder : α) : Denominator → Option (α × α)
  | .fixed value =>
    let denominator : α := Scalar.ofInt value
    some (Scalar.nearest (remainder * denominator), denominator)
  | .free places =>
    (closestFraction? remainder (10 ^ places.length - 1)).map fun (numerator, denominator) =>
      (Scalar.ofInt numerator, Scalar.ofInt denominator)

/-- A whole part and the numerator and denominator beside it; a numerator that reaches the denominator counts on
into the whole part. -/
def mixedParts? (x : α) (fraction : FractionPattern) : Option (α × α × α) :=
  let mixed := !fraction.integer.isEmpty
  let whole : α := if mixed then Scalar.floor x else Scalar.ofInt 0
  (fractionParts? (x - whole) fraction.denominator).map fun (numerator, denominator) =>
    if mixed && Scalar.same numerator denominator then (whole + Scalar.ofInt 1, Scalar.ofInt 0, denominator)
    else (whole, numerator, denominator)

/-- The text of a magnitude as a fraction. -/
def fractionText? (x : α) (fraction : FractionPattern) : Option (List Char) :=
  (mixedParts? x fraction).map fun (whole, numerator, denominator) =>
    let mixed := !fraction.integer.isEmpty
    let zero : α := Scalar.ofInt 0
    let wholeText :=
      if mixed then fillInteger (if Scalar.same whole zero then [] else Scalar.text whole) fraction.integer none
      else []
    if Scalar.same numerator zero then
      if (Text.trim wholeText).isEmpty then ['0'] else wholeText
    else
      let below := match fraction.denominator with
        | .fixed _ => Scalar.text denominator
        | .free places => padRightTo places (Scalar.text denominator)
      let text := padLeftTo fraction.numerator (Scalar.text numerator) ++ '/' :: below
      if !mixed then fraction.separator ++ text
      else if Scalar.same whole zero && !fraction.integer.contains '0' then text
      else wholeText ++ fraction.separator ++ text

end Spreadsheet.Format
