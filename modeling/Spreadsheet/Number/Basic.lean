/-! Numbers of a sheet: binary floating point with a 53-bit significand. Every operation is the exact result,
rounded once, to the nearest with ties to even. -/
namespace Spreadsheet

-- Powers are those of the core library, also where others are in scope.
attribute [local instance (high)] instPowNat

/-- A number is not-a-number, an infinity, or `± significand * 2 ^ (exponent - 1074)`. The canonical form has the
least possible exponent, so two finite numbers with one value and one sign are equal. -/
inductive Number where
  | nan
  | infinite (negative : Bool)
  | finite (negative : Bool) (significand exponent : Nat)
      (canonical :
        significand < 2 ^ (53 : Nat) ∧ exponent ≤ 2045 ∧ (exponent = 0 ∨ 2 ^ (52 : Nat) ≤ significand))
deriving DecidableEq

/-- The nearest whole number to `numerator / denominator`, a half going to the even neighbour. -/
def nearestEven (numerator denominator : Nat) : Nat :=
  let quotient := numerator / denominator
  let twice := 2 * (numerator % denominator)
  if denominator < twice ∨ (twice = denominator ∧ quotient % 2 = 1) then quotient + 1 else quotient

/-- The greatest `k` with `2 ^ k ≤ numerator / denominator`, for positive arguments. -/
def floorLog2 (numerator denominator : Nat) : Int :=
  let estimate : Int := numerator.log2 - denominator.log2
  if 2 ^ estimate.toNat * denominator ≤ 2 ^ (-estimate).toNat * numerator then estimate else estimate - 1

namespace Number

/-- The sign tells the two zeros apart. -/
def zero (negative : Bool) : Number := .finite negative 0 0 (by decide)

/-- Reads a significand that may have been rounded up to `2 ^ 53`; what needs a larger exponent than there is
becomes infinite. -/
def ofSignificand (negative : Bool) (significand exponent : Nat) : Number :=
  if small : significand < 2 ^ (53 : Nat) ∧ exponent ≤ 2045 ∧ (exponent = 0 ∨ 2 ^ (52 : Nat) ≤ significand) then
    .finite negative significand exponent small
  else if carried : exponent + 1 ≤ 2045 ∧ significand = 2 ^ (53 : Nat) then
    .finite negative (2 ^ (52 : Nat)) (exponent + 1) ⟨by decide, carried.1, .inr (by decide)⟩
  else .infinite negative

/-- The number nearest to `± magnitude * 2 ^ (exponent - 1074)`, for any magnitude and exponent. -/
def ofScaled (negative : Bool) (magnitude : Nat) (exponent : Int) : Number :=
  if magnitude = 0 then zero negative
  else
    let target := (exponent + magnitude.log2 - 52).toNat
    let shift := target - exponent
    ofSignificand negative
      (if shift ≤ 0 then magnitude * 2 ^ (-shift).toNat else nearestEven magnitude (2 ^ shift.toNat)) target

/-- The number nearest to `± numerator / denominator`. -/
def ofRatio (negative : Bool) (numerator denominator : Nat) : Number :=
  if numerator = 0 then zero negative
  else
    let exponent := (floorLog2 numerator denominator + 1022).toNat
    ofSignificand negative
      (nearestEven (numerator * 2 ^ (1074 - exponent)) (denominator * 2 ^ (exponent - 1074))) exponent

def ofNat (value : Nat) : Number := ofScaled false value 1074

/-- An integer has no negative zero. -/
def ofInt (value : Int) : Number := ofScaled (value < 0) value.natAbs 1074

instance (value : Nat) : OfNat Number value := ⟨ofNat value⟩

/-- The magnitude of a finite number as a fraction; one of its two powers of two is 1. -/
def fraction (significand exponent : Nat) : Nat × Nat :=
  (significand * 2 ^ (exponent - 1074), 2 ^ (1074 - exponent))

/-- The exact value of a finite number. -/
def toRat? : Number → Option Rat
  | finite negative significand exponent _ =>
    let (numerator, denominator) := fraction significand exponent
    some ((if negative then -(numerator : Int) else numerator) / denominator)
  | _ => none

def isNaN : Number → Bool
  | nan => true
  | _ => false

def isFinite : Number → Bool
  | finite .. => true
  | _ => false

/-- The sign bit; not-a-number has none. -/
def isNegative : Number → Bool
  | nan => false
  | infinite negative | finite negative .. => negative

def isZero : Number → Bool
  | finite _ significand _ _ => significand == 0
  | _ => false

def neg : Number → Number
  | nan => nan
  | infinite negative => infinite !negative
  | finite negative significand exponent canonical => finite (!negative) significand exponent canonical

def abs : Number → Number
  | nan => nan
  | infinite _ => infinite false
  | finite _ significand exponent canonical => finite false significand exponent canonical

/-- Adds two magnitudes with signs, of one scale. A sum that cancels is negative zero only if both are negative. -/
def addScaled (a b : Bool) (m n : Nat) (exponent : Int) : Number :=
  if a = b then ofScaled a (m + n) exponent
  else if n < m then ofScaled a (m - n) exponent
  else if m < n then ofScaled b (n - m) exponent
  else zero false

def add : Number → Number → Number
  | nan, _ | _, nan => nan
  | infinite a, infinite b => if a == b then infinite a else nan
  | infinite a, finite .. => infinite a
  | finite .., infinite b => infinite b
  | finite a s e _, finite b t f _ => addScaled a b (s * 2 ^ (e - f)) (t * 2 ^ (f - e)) (min e f : Nat)

def sub (x y : Number) : Number := add x (neg y)

def mul : Number → Number → Number
  | nan, _ | _, nan => nan
  | infinite a, infinite b => infinite (a != b)
  | infinite a, finite b t _ _ | finite b t _ _, infinite a => if t = 0 then nan else infinite (a != b)
  | finite a s e _, finite b t f _ => ofScaled (a != b) (s * t) (e + f - 1074 : Int)

def div : Number → Number → Number
  | nan, _ | _, nan | infinite _, infinite _ => nan
  | infinite a, finite b .. => infinite (a != b)
  | finite a .., infinite b => zero (a != b)
  | finite a s e _, finite b t f _ =>
    if t = 0 then (if s = 0 then nan else infinite (a != b))
    else ofRatio (a != b) (s * 2 ^ (e - f)) (t * 2 ^ (f - e))

/-- The remainder of the division toward zero, with the sign of the dividend. -/
def rem : Number → Number → Number
  | nan, _ | _, nan | infinite _, _ => nan
  | x@(finite ..), infinite _ => x
  | finite a s e _, finite _ t f _ =>
    if t = 0 then nan else ofScaled a (s * 2 ^ (e - f) % (t * 2 ^ (f - e))) (min e f : Nat)

instance : Neg Number := ⟨neg⟩
instance : Add Number := ⟨add⟩
instance : Sub Number := ⟨sub⟩
instance : Mul Number := ⟨mul⟩
instance : Div Number := ⟨div⟩
instance : Mod Number := ⟨rem⟩

/-- Magnitudes are ordered by their exponents first, since their form is canonical. -/
def compareMagnitude (s e t f : Nat) : Ordering := (compare e f).then (compare s t)

/-- The order of two numbers; none where not-a-number takes part. The zeros are equal. -/
def compare? : Number → Number → Option Ordering
  | nan, _ | _, nan => none
  | infinite a, infinite b => some (if a == b then .eq else if a then .lt else .gt)
  | infinite a, finite .. => some (if a then .lt else .gt)
  | finite .., infinite b => some (if b then .gt else .lt)
  | finite a s e _, finite b t f _ =>
    some (if s = 0 ∧ t = 0 then .eq
      else if a then (if b then compareMagnitude t f s e else .lt)
      else if b then .gt else compareMagnitude s e t f)

/-- Numerical equality: not-a-number differs from itself, and the zeros are equal. -/
def same (x y : Number) : Bool := x.compare? y == some .eq

instance : LT Number := ⟨fun x y => x.compare? y = some .lt⟩
instance : LE Number := ⟨fun x y => x.compare? y = some .lt ∨ x.compare? y = some .eq⟩
instance (x y : Number) : Decidable (x < y) := inferInstanceAs (Decidable (x.compare? y = some .lt))
instance (x y : Number) : Decidable (x ≤ y) :=
  inferInstanceAs (Decidable (x.compare? y = some .lt ∨ x.compare? y = some .eq))
instance : BEq Number := ⟨same⟩

/-- The lesser number; not-a-number if either is, and negative zero below zero. -/
protected def min (x y : Number) : Number :=
  match x.compare? y with
  | none => nan
  | some .lt => x
  | some .gt => y
  | some .eq => if x.isNegative then x else y

/-- The greater number; not-a-number if either is, and zero above negative zero. -/
protected def max (x y : Number) : Number :=
  match x.compare? y with
  | none => nan
  | some .lt => y
  | some .gt => x
  | some .eq => if x.isNegative then y else x

instance : Min Number := ⟨Number.min⟩
instance : Max Number := ⟨Number.max⟩

/-- The greatest whole number not above. A zero keeps the sign, here and below. -/
def floor : Number → Number
  | finite negative s e _ =>
    let (n, d) := fraction s e
    ofScaled negative (if negative then (n + (d - 1)) / d else n / d) 1074
  | x => x

/-- The least whole number not below. -/
def ceil : Number → Number
  | finite negative s e _ =>
    let (n, d) := fraction s e
    ofScaled negative (if negative then n / d else (n + (d - 1)) / d) 1074
  | x => x

/-- The nearest whole number, a half going up. -/
def round : Number → Number
  | finite negative s e _ =>
    let (n, d) := fraction s e
    ofScaled negative (if negative then (2 * n + (d - 1)) / (2 * d) else (2 * n + d) / (2 * d)) 1074
  | x => x

/-- A magnitude with its sign. -/
def signed (negative : Bool) (magnitude : Nat) : Int := if negative then -magnitude else magnitude

/-- The whole number that a finite number is, if it is one. -/
def toInt? : Number → Option Int
  | finite negative s e _ =>
    let (n, d) := fraction s e
    if n % d = 0 then some (signed negative (n / d)) else none
  | _ => none

/-- The whole part of a finite number, its fraction dropped. -/
def truncate? : Number → Option Int
  | finite negative s e _ =>
    let (n, d) := fraction s e
    some (signed negative (n / d))
  | _ => none

/-- Below this magnitude every whole number is a number and so are its neighbours. -/
def safeBound : Nat := 2 ^ (53 : Nat)

/-- The number nearest to a power of ten. -/
def powerOfTen (exponent : Int) : Number :=
  if 400 < exponent then infinite false
  else if exponent < -400 then zero false
  else ofRatio false (10 ^ exponent.toNat) (10 ^ (-exponent).toNat)

/-- The number nearest to a power of a base of at least two. -/
def power (base exponent : Nat) : Number :=
  if 1100 < exponent then infinite false else ofNat (base ^ exponent)

end Number
end Spreadsheet
