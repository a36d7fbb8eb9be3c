import Spreadsheet.Proofs.Number.Differences
import Spreadsheet.Proofs.Number.Parts

/-! Sums of great numbers. They are rounded and may even be infinite, but neither makes them small. -/
namespace Spreadsheet.Number
variable {x y z low : Number} {a b c d : Int}

/-- A minus sign makes no magnitude positive. -/
theorem eq_false_of_signed {negative : Bool} {magnitude : Nat} (positive : 0 < signed negative magnitude) :
    negative = false := by
  cases negative with
  | false => rfl
  | true =>
    simp only [signed, ↓reduceIte] at positive
    omega

/-- A magnitude is rounded to infinity, or at least a half of it is left. -/
theorem ofScaled_cases (magnitude exponent : Nat) : ofScaled false magnitude exponent = infinite false ∨
    ∃ v : Nat, (ofScaled false magnitude exponent).units? = some (v : Int) ∧ magnitude * 2 ^ exponent ≤ 2 * v := by
  have numeric := isNaN_ofScaled false magnitude exponent
  have unsigned := isNegative_ofScaled false magnitude exponent
  have kept {value : Int} := @magnitude_le_of_ofScaled false magnitude exponent value
  generalize ofScaled false magnitude exponent = rounded at *
  cases rounded with
  | nan => cases numeric
  | infinite negative =>
    cases unsigned
    exact .inl rfl
  | finite negative s e canonical =>
    cases unsigned
    have half := kept rfl
    simp only [signed, Bool.false_eq_true, ↓reduceIte, Int.natAbs_natCast] at half
    exact .inr ⟨_, rfl, half⟩

/-- A sum above zero is infinite, or at least a half of it is left when it is rounded. -/
theorem add_cases (first : x.units? = some a) (second : y.units? = some b) (positive : 0 < a + b) :
    x + y = infinite false ∨ ∃ v, (x + y).units? = some v ∧ a + b ≤ 2 * v := by
  obtain ⟨negative, magnitude, exponent, same, sum⟩ := add_eq_ofScaled first second
  obtain rfl := eq_false_of_signed (sum ▸ positive)
  simp only [signed, Bool.false_eq_true, ↓reduceIte] at sum
  rw [same]
  rcases ofScaled_cases magnitude exponent with infinite | ⟨v, units, half⟩
  · exact .inl infinite
  · exact .inr ⟨v, units, by omega⟩

private theorem not_infinite_lt (finite : low.units? = some d) : ¬infinite false < low := by
  cases low with
  | nan => cases finite
  | infinite negative => cases finite
  | finite negative s e canonical => exact fun less => nomatch less

/-- What is moved on by a great difference is great. -/
theorem not_add_sub_lt (first : x.toInt? = some a) (second : y.toInt? = some b) (third : z.toInt? = some c)
    (last : low.toInt? = some d) (begins : 0 ≤ a) (positive : 0 < d) (far : 4 * d ≤ b - c) : ¬x + (y - z) < low := by
  rw [toInt?_eq_some_iff] at first second third last
  have one : (0 : Int) < unitsPerOne := by exact_mod_cast unitsPerOne_pos
  have begins : 0 ≤ a * (unitsPerOne : Int) := Int.mul_nonneg begins one.le
  have positive : 0 < d * (unitsPerOne : Int) := Int.mul_pos positive one
  have far : 4 * (d * (unitsPerOne : Int)) ≤ b * unitsPerOne + -(c * unitsPerOne) := by
    rw [← Int.sub_eq_add_neg, ← Int.sub_mul, ← Int.mul_assoc]
    exact Int.mul_le_mul_of_nonneg_right far one.le
  have negated : (-z).units? = some (-(c * (unitsPerOne : Int))) := by rw [units_neg, third]; rfl
  change ¬x + (y + -z) < low
  rcases add_cases second negated (by omega) with infinite | ⟨shift, difference, half⟩
  · have sum : x + (y + -z) = .infinite false := by
      rw [infinite]
      cases x with
      | nan => cases first
      | infinite negative => cases first
      | finite => rfl
    rw [sum]
    exact not_infinite_lt last
  · rcases add_cases first difference (by omega) with infinite | ⟨v, sum, rounded⟩
    · rw [infinite]
      exact not_infinite_lt last
    · rw [lt_iff_units sum last]
      omega

end Spreadsheet.Number
