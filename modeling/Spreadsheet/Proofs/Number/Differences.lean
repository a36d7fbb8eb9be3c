import Spreadsheet.Proofs.Number.Division
import Spreadsheet.Proofs.Number.Exactness

/-! Differences of numbers against a bound, and quotients that come out even. Numbers that differ have a difference that
is not zero, however it is rounded; it is not-a-number only where an infinity is taken from itself. -/
namespace Spreadsheet.Number
attribute [local instance (high)] instPowNat
variable {x y tolerance : Number} {a b : Int}

/-- The order leaves out not-a-number alone. -/
theorem not_lt_iff (first : x.isNaN = false) (second : y.isNaN = false) : ¬x < y ↔ y ≤ x := by
  cases x with
  | nan => cases first
  | infinite negative =>
    cases y with
    | nan => cases second
    | infinite other => cases negative <;> cases other <;> decide
    | finite q t f canonical => cases negative <;> simp [LT.lt, LE.le, compare?]
  | finite p s e canonical =>
    cases y with
    | nan => cases second
    | infinite other => cases other <;> simp [LT.lt, LE.le, compare?]
    | finite q t f other => rw [lt_iff_units rfl rfl, le_iff_units rfl rfl, Int.not_lt]

private theorem isNaN_ofSignificand (negative : Bool) (significand exponent : Nat) :
    (ofSignificand negative significand exponent).isNaN = false := by
  unfold ofSignificand
  split
  · rfl
  · split <;> rfl

theorem isNaN_ofScaled (negative : Bool) (magnitude : Nat) (exponent : Int) :
    (ofScaled negative magnitude exponent).isNaN = false := by
  unfold ofScaled
  split
  · rfl
  · exact isNaN_ofSignificand _ _ _

/-- Rounding makes no magnitude zero that was not. -/
theorem abs_ofScaled_pos_iff {negative : Bool} {magnitude exponent : Nat} :
    0 < (ofScaled negative magnitude exponent).abs ↔ magnitude ≠ 0 := by
  constructor
  · rintro positive rfl
    rw [ofScaled_zero] at positive
    cases negative <;> exact absurd positive (by decide)
  · intro some
    have numeric := isNaN_ofScaled negative magnitude exponent
    have kept {value : Int} := @magnitude_le_of_ofScaled negative magnitude exponent value
    generalize ofScaled negative magnitude exponent = rounded at numeric kept ⊢
    cases rounded with
    | nan => cases numeric
    | infinite other => rfl
    | finite p s e canonical =>
      rw [pos_iff_units (units_abs rfl)]
      have exact := kept rfl
      have positive : 0 < magnitude * 2 ^ exponent := Nat.mul_pos (Nat.pos_of_ne_zero some) (Nat.two_pow_pos _)
      omega

/-- The difference of two numbers is zero only if they are equal. -/
theorem abs_sub_pos_iff (first : x.units? = some a) (second : y.units? = some b) : 0 < (x - y).abs ↔ a ≠ b := by
  have negated : (-y).units? = some (-b) := by rw [units_neg, second]; rfl
  obtain ⟨negative, magnitude, exponent, same, sum⟩ := add_eq_ofScaled first negated
  have zero : magnitude = 0 ↔ a = b := by
    have size : magnitude * 2 ^ exponent = (a + -b).natAbs := by rw [← sum, natAbs_signed]
    have none : magnitude * 2 ^ exponent = 0 ↔ magnitude = 0 := by simp
    rw [← none, size]
    omega
  rw [show x - y = x + -y from rfl, same, abs_ofScaled_pos_iff, ne_eq, zero]

/-- Only an infinity and itself have no difference. -/
theorem eq_of_isNaN_sub (first : x.isNaN = false) (second : y.isNaN = false) (undefined : (x - y).isNaN = true) :
    x = y := by
  cases x with
  | nan => cases first
  | infinite negative =>
    cases y with
    | nan => cases second
    | infinite other =>
      revert undefined
      cases negative <;> cases other <;> decide
    | finite q t f canonical => cases undefined
  | finite p s e canonical =>
    cases y with
    | nan => cases second
    | infinite other => cases undefined
    | finite q t f other =>
      obtain ⟨negative, magnitude, exponent, same, _⟩ :=
        add_eq_ofScaled (x := finite p s e canonical) (y := -finite q t f other) rfl rfl
      rw [show finite p s e canonical - finite q t f other = finite p s e canonical + -finite q t f other from rfl, same,
        isNaN_ofScaled] at undefined
      cases undefined

/-- No number is farther from itself than a tolerance. -/
theorem not_lt_abs_sub_self (positive : ¬tolerance < 0) (x : Number) : ¬tolerance < (x - x).abs := by
  cases x with
  | nan => cases tolerance <;> exact fun less => nomatch less
  | infinite negative => cases negative <;> cases tolerance <;> exact fun less => nomatch less
  | finite p s e canonical =>
    have none : finite p s e canonical - finite p s e canonical = zero false := by
      change addScaled p (!p) (s * 2 ^ (e - e)) (s * 2 ^ (e - e)) _ = _
      unfold addScaled
      rw [if_neg (by simp), if_neg (Nat.lt_irrefl _), if_neg (Nat.lt_irrefl _)]
    rwa [none]

/-- A difference is within a tolerance unless it is beyond it; an infinity is within any tolerance of itself. -/
theorem not_lt_abs_sub_iff (first : x.isNaN = false) (second : y.isNaN = false) (numeric : tolerance.isNaN = false)
    (positive : ¬tolerance < 0) : ¬tolerance < (x - y).abs ↔ x = y ∨ (x - y).abs ≤ tolerance := by
  have proper (z : Number) : z.abs.isNaN = z.isNaN := by cases z <;> rfl
  by_cases undefined : (x - y).isNaN = true
  · obtain rfl := eq_of_isNaN_sub first second undefined
    exact iff_of_true (not_lt_abs_sub_self positive x) (.inl rfl)
  · rw [Bool.not_eq_true] at undefined
    rw [not_lt_iff numeric ((proper _).trans undefined), or_iff_right_of_imp]
    rintro rfl
    exact (not_lt_iff numeric ((proper _).trans undefined)).mp (not_lt_abs_sub_self positive x)

section whole
variable {m : Int} {d : Nat} (first : x.toInt? = some m) (second : y.toInt? = some (d : Int)) (positive : 0 < d)
include first second positive

/-- A remainder is zero exactly where the division comes out even. -/
theorem rem_same_zero_iff (small : m.natAbs < 2 ^ (53 : Nat)) : (x % y).same 0 = true ↔ (d : Int) ∣ m := by
  obtain ⟨negative, s, t, exponent, _, rest, dividend, divisor, _⟩ := exists_common_scale first second positive
  have value : s % t * 2 ^ exponent = m.natAbs % d * unitsPerOne := by
    rw [← Nat.mul_mod_mul_right, dividend, divisor, Nat.mul_mod_mul_right]
  have whole := toInt?_ofScaled negative _ _ ((Nat.mod_le m.natAbs d).trans_lt small) value
  rw [rest, same_iff_units (toInt?_eq_some_iff.mp whole) zero_units, Int.mul_eq_zero,
    or_iff_left (by exact_mod_cast unitsPerOne_pos.ne'), ← Int.natAbs_eq_zero, natAbs_signed, ← Nat.dvd_iff_mod_eq_zero,
    Int.natCast_dvd]

/-- A quotient that comes out even is exact. -/
theorem toInt?_div {q : Int} (even : m = q * d) (small : q.natAbs < 2 ^ (53 : Nat)) : (x / y).toInt? = some q := by
  obtain ⟨negative, s, t, exponent, quotient, _, dividend, divisor, sign⟩ := exists_common_scale first second positive
  have place := Nat.two_pow_pos exponent
  have denominator : 0 < t := by
    apply Nat.pos_of_mul_pos_right (b := 2 ^ exponent)
    rw [divisor]
    exact Nat.mul_pos positive unitsPerOne_pos
  have multiple : s = q.natAbs * t := by
    apply Nat.eq_of_mul_eq_mul_right place
    rw [dividend, even, Int.natAbs_mul, Int.natAbs_natCast, Nat.mul_assoc, Nat.mul_assoc, divisor]
  rw [quotient, multiple, toInt?_ofRatio denominator small, Option.some.injEq]
  rw [even, Int.natAbs_mul, Int.natAbs_natCast, signed_mul] at sign
  exact Int.eq_of_mul_eq_mul_right (by exact_mod_cast positive.ne') sign

end whole

end Spreadsheet.Number
