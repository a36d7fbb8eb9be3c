import Spreadsheet.Format.Template
import Spreadsheet.Locale.Basic
import Spreadsheet.Number.Scalar

/-! Magnitudes with fixed decimals and in scientific notation. -/
namespace Spreadsheet.Format

variable {α : Type} [Scalar α]

/-- The text of a magnitude under a pattern of digits and decimals. -/
def fixedText? (x : α) (pattern : DigitPattern) (locale : Locale) : Option (List Char) :=
  (Scalar.fixed? pattern.decimals.length x).map fun fixed =>
    let whole := fixed.takeWhile (· != '.')
    let decimals := (fixed.drop whole.length).drop 1
    fillInteger (if whole = ['0'] then [] else whole) pattern.integer
        (if pattern.grouping then some locale.thousands.toList else none) ++
      if pattern.hasPoint then locale.decimal.toList ++ fillDecimals decimals pattern.decimals else []

/-- How many digits stand before the point, and the step of the exponent: that many in engineering notation, where
one of several placeholders is `#`, and else one. -/
def scientificLayout (pattern : DigitPattern) : Nat × Nat :=
  let digits := max 1 (placeholders pattern.integer).length
  (digits, if 1 < digits ∧ pattern.integer.contains '#' then digits else 1)

/-- The decimal exponent of a positive value, corrected where the quotient is rounded over a power of ten. -/
def leadingExponent (x : α) (floorLog10 : Int) : Int :=
  let exponent :=
    if Scalar.atLeast (x / Scalar.powerOfTen floorLog10) (Scalar.ofInt 10) then floorLog10 + 1 else floorLog10
  if Scalar.less (x / Scalar.powerOfTen exponent) (Scalar.ofInt 1) then exponent - 1 else exponent

/-- The mantissa and the exponent that print. A mantissa that its decimals round up to the next power of ten moves
the exponent on by a step. -/
def normalize? (x : α) (floorLog10 : Int) (pattern : DigitPattern) : Option (α × Int) := do
  let (digits, step) := scientificLayout pattern
  let engineering := step != 1
  let leading := leadingExponent x floorLog10
  let exponent : Int := if engineering then leading / step * step else leading - (digits - 1 : Nat)
  let mantissa := x / Scalar.powerOfTen exponent
  let printed : α := Scalar.ofText (← Scalar.fixed? pattern.decimals.length mantissa)
  if Scalar.atLeast printed (Scalar.powerOfTen (if engineering then step else digits)) then
    return (x / Scalar.powerOfTen (exponent + step), exponent + step)
  return (mantissa, exponent)

/-- The text of a magnitude in scientific notation. A magnitude that has no exponent shows its own text as
exponent. -/
def scientificText? (x : α) (pattern : DigitPattern) (exponentPattern : ExponentPattern) (locale : Locale) :
    Option (List Char) := do
  let (mantissa, negative, magnitude) ←
    if Scalar.same x (Scalar.ofInt 0) then some (x, false, ['0'])
    else match Scalar.floorLog10? x with
      | some size =>
        (normalize? x size pattern).map fun (mantissa, exponent) =>
          (mantissa, decide (exponent < 0), Text.numeral exponent.natAbs)
      | none => some (x / x, false, Scalar.text x)
  let text ← fixedText? mantissa { pattern with grouping := false } locale
  let sign := if negative then ['-'] else if exponentPattern.alwaysSign then ['+'] else []
  return text ++ (if exponentPattern.upper then 'E' else 'e') :: sign ++
    Text.padLeft exponentPattern.digits '0' magnitude

end Spreadsheet.Format
