import Spreadsheet.Proofs.Number.Order

/-! Signs and magnitudes of numbers. -/
namespace Spreadsheet.Number
attribute [local instance (high)] instPowNat
variable {x y : Number} {a b : Int}

theorem isFinite_iff : x.isFinite = true ↔ ∃ a, x.units? = some a := by
  cases x <;> simp [isFinite, units?]

/-- Finite numbers are in the order of their units. -/
theorem lt_iff_units (first : x.units? = some a) (second : y.units? = some b) : x < y ↔ a < b := by
  change x.compare? y = some .lt ↔ a < b
  rw [compare?_eq first second, Option.some.injEq, Int.compare_eq_lt]

theorem le_iff_units (first : x.units? = some a) (second : y.units? = some b) : x ≤ y ↔ a ≤ b := by
  change x.compare? y = some .lt ∨ x.compare? y = some .eq ↔ a ≤ b
  rw [compare?_eq first second, Option.some.injEq, Option.some.injEq, Int.compare_eq_lt, Int.compare_eq_eq]
  omega

theorem same_iff_units (first : x.units? = some a) (second : y.units? = some b) : x.same y = true ↔ a = b := by
  rw [same, beq_iff_eq, compare?_eq first second, Option.some.injEq, Int.compare_eq_eq]

theorem zero_units : (0 : Number).units? = some 0 := rfl

theorem pos_iff_units (first : x.units? = some a) : 0 < x ↔ 0 < a := lt_iff_units zero_units first

theorem neg_iff_units (first : x.units? = some a) : x < 0 ↔ a < 0 := lt_iff_units first zero_units

@[simp] theorem abs_abs (x : Number) : x.abs.abs = x.abs := by cases x <;> rfl

@[simp] theorem isFinite_abs (x : Number) : x.abs.isFinite = x.isFinite := by cases x <;> rfl

theorem units_abs (first : x.units? = some a) : x.abs.units? = some (a.natAbs : Int) := by
  cases x with
  | nan => cases first
  | infinite negative => cases first
  | finite negative s e canonical =>
    cases first
    rw [natAbs_signed]
    rfl

theorem toInt?_abs (whole : x.toInt? = some a) : x.abs.toInt? = some (a.natAbs : Int) := by
  rw [toInt?_eq_some_iff] at whole ⊢
  rw [units_abs whole, Int.natAbs_mul, Int.natAbs_natCast, Int.natCast_mul]

/-- No magnitude is negative. -/
theorem not_abs_neg (x : Number) : ¬x.abs < 0 := by
  cases x with
  | nan => exact fun less => nomatch less
  | infinite negative => exact fun less => nomatch less
  | finite negative s e canonical =>
    rw [neg_iff_units (units_abs rfl)]
    omega

theorem not_neg_of_pos (positive : 0 < x) : ¬x < 0 := by
  cases x with
  | nan => exact fun less => nomatch less
  | infinite negative =>
    cases negative with
    | true => cases positive
    | false => exact fun less => nomatch less
  | finite negative s e canonical =>
    rw [pos_iff_units rfl] at positive
    rw [neg_iff_units rfl]
    omega

end Spreadsheet.Number
