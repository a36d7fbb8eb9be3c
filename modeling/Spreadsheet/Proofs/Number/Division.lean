import Spreadsheet.Proofs.Number.Accuracy
import Spreadsheet.Proofs.Number.Magnitude
import Spreadsheet.Proofs.Number.Numerals

/-! Division of whole numbers. A quotient is rounded, but neither to a whole number that it has not reached nor below
one that it has, so that its whole part is exact. A remainder is not rounded at all. -/
namespace Spreadsheet.Number
attribute [local instance (high)] instPowNat
variable {x y : Number}

/-- Quotient and remainder of whole numbers in terms of magnitudes of one scale. -/
theorem exists_common_scale {m : Int} {d : Nat} (first : x.toInt? = some m) (second : y.toInt? = some (d : Int))
    (positive : 0 < d) : ∃ negative dividend divisor, ∃ exponent : Nat,
      x / y = ofRatio negative dividend divisor ∧ x % y = ofScaled negative (dividend % divisor) exponent ∧
      dividend * 2 ^ exponent = m.natAbs * unitsPerOne ∧ divisor * 2 ^ exponent = d * unitsPerOne ∧
      signed negative m.natAbs = m := by
  cases x with
  | nan => cases first
  | infinite negative => cases first
  | finite p s e _ =>
    cases y with
    | nan => cases second
    | infinite negative => cases second
    | finite q t f _ =>
      obtain ⟨sign, dividend⟩ := units_of_finite first
      obtain ⟨plain, divisor⟩ := units_of_finite second
      rw [Int.natAbs_natCast] at plain divisor
      have some : t ≠ 0 := by
        rintro rfl
        rw [Nat.zero_mul] at divisor
        exact (Nat.mul_pos positive unitsPerOne_pos).ne divisor
      have unsigned : q = false := by
        cases q with
        | false => rfl
        | true => simp only [signed, ↓reduceIte] at plain; omega
      subst unsigned
      refine ⟨p, s * 2 ^ (e - f), t * 2 ^ (f - e), min e f, ?_, ?_, ?_, ?_, sign⟩
      · change div _ _ = _
        rw [div, if_neg some, Bool.bne_false]
      · change rem _ _ = _
        rw [rem, if_neg some]
      · rw [mul_common_scale, dividend]
      · rw [Nat.min_comm, mul_common_scale, divisor]

theorem div_eq_ofRatio {m : Int} {d : Nat} (first : x.toInt? = some m) (second : y.toInt? = some (d : Int))
    (positive : 0 < d) : ∃ negative dividend divisor, x / y = ofRatio negative dividend divisor ∧
      0 < divisor ∧ dividend * d = m.natAbs * divisor := by
  obtain ⟨negative, n, t, exponent, quotient, _, dividend, divisor, _⟩ := exists_common_scale first second positive
  have scale : 0 < 2 ^ exponent * unitsPerOne := Nat.mul_pos (Nat.two_pow_pos _) unitsPerOne_pos
  refine ⟨negative, n, t, quotient, ?_, ?_⟩
  · apply Nat.pos_of_mul_pos_right (b := 2 ^ exponent)
    rw [divisor]
    exact Nat.mul_pos positive unitsPerOne_pos
  · apply Nat.eq_of_mul_eq_mul_right scale
    calc n * d * (2 ^ exponent * unitsPerOne) = n * 2 ^ exponent * (d * unitsPerOne) := by ring
      _ = m.natAbs * unitsPerOne * (t * 2 ^ exponent) := by rw [dividend, divisor]
      _ = m.natAbs * t * (2 ^ exponent * unitsPerOne) := by ring

/-- A quotient that has reached a whole number is not rounded below it. -/
theorem le_units_of_ofRatio {negative : Bool} {n d q : Nat} (positive : 0 < d) (reached : q * d ≤ n)
    (range : n < 2 ^ (53 : Nat) * d) {a : Int} (finite : (ofRatio negative n d).units? = some a) :
    q * unitsPerOne ≤ a.natAbs := by
  by_cases some : n = 0
  · obtain rfl : q = 0 := by
      rw [some, Nat.le_zero, Nat.mul_eq_zero] at reached
      exact reached.resolve_right positive.ne'
    simp
  · have limit := floorLog2_lt (Nat.pos_of_ne_zero some) positive range
    unfold ofRatio at finite
    rw [if_neg some] at finite
    dsimp only at finite
    generalize exponent : (floorLog2 n d + 1022).toNat = e at finite
    have least : e ≤ 1074 := by omega
    rw [units_of_ofSignificand finite, natAbs_signed, Nat.sub_eq_zero_of_le least, Nat.pow_zero, Nat.mul_one]
    have above : q * 2 ^ (1074 - e) * d ≤ n * 2 ^ (1074 - e) := by
      rw [Nat.mul_right_comm]
      exact Nat.mul_le_mul_right _ reached
    have kept := (nearestEven_mem positive above (Nat.le_mul_of_pos_right _ positive)).1
    calc q * unitsPerOne = q * 2 ^ (1074 - e) * 2 ^ e := by
          rw [Nat.mul_assoc, ← Nat.pow_add, Nat.sub_add_cancel least, unitsPerOne, bias]
      _ ≤ nearestEven (n * 2 ^ (1074 - e)) d * 2 ^ e := Nat.mul_le_mul_right _ kept

theorem neg_iff_toRat? {a : Rat} (is : x.toRat? = some a) : x < 0 ↔ a < 0 := by
  obtain ⟨units, known, rfl⟩ := toRat?_eq_some_iff.mp is
  have one : (0 : Rat) < unitsPerOne := by exact_mod_cast unitsPerOne_pos
  rw [neg_iff_units known, div_lt_iff₀ one, zero_mul, Int.cast_lt_zero]

section whole
variable {d : Nat} (positive : 0 < d) (bounded : d ≤ 2 ^ (53 : Nat))
include positive bounded

/-- The quotient of two whole numbers of less than 54 bits is off by less than one part of the divisor. -/
theorem exists_div {m : Int} (first : x.toInt? = some m) (second : y.toInt? = some (d : Int))
    (small : m.natAbs < 2 ^ (53 : Nat)) :
    ∃ a : Rat, (x / y).toRat? = some a ∧ (m - 1) / d < a ∧ a < (m + 1) / d := by
  have divisor : (0 : Rat) < d := by exact_mod_cast positive
  have least : (1 : Rat) ≤ d := by exact_mod_cast positive
  have most : (d : Rat) ≤ 2 ^ 53 := by exact_mod_cast bounded
  have dividend : |(m : Rat)| + 1 ≤ 2 ^ 53 := by
    rw [← Int.cast_abs, Int.abs_eq_natAbs]
    exact_mod_cast small
  have quotient : |(m : Rat) / d| = |(m : Rat)| / d := by rw [abs_div, abs_of_pos divisor]
  have range : |(m : Rat) / d| ≤ 2 ^ 60 := by
    rw [quotient, div_le_iff₀ divisor]
    nlinarith
  obtain ⟨a, is, near⟩ := approximates_div (toRat?_of_toInt? first) (toRat?_of_toInt? second)
    (by exact_mod_cast divisor.ne') (abs_lt_of_le range)
  rw [Int.cast_natCast] at near
  have tiny : halfUnit * d ≤ 1 / 2 ^ 110 * 2 ^ 53 :=
    mul_le_mul (halfUnit_le_of_le (by decide)) most divisor.le (by positivity)
  have part : |a - m / d| < 1 / d := by
    refine near.trans_lt ?_
    rw [quotient, lt_div_iff₀ divisor, add_mul, div_right_comm, div_mul_cancel₀ _ divisor.ne']
    linarith
  rw [abs_lt, lt_sub_iff_add_lt, neg_add_eq_sub, ← sub_div, sub_lt_iff_lt_add', ← add_div] at part
  exact ⟨a, is, part⟩

/-- A quotient by a positive number has the sign of the dividend. -/
theorem div_lt_zero_iff {m : Int} (first : x.toInt? = some m) (second : y.toInt? = some (d : Int))
    (small : m.natAbs < 2 ^ (53 : Nat)) : x / y < 0 ↔ m < 0 := by
  have divisor : (0 : Rat) < d := by exact_mod_cast positive
  rcases Int.lt_trichotomy m 0 with below | rfl | above
  · obtain ⟨a, is, _, high⟩ := exists_div positive bounded first second small
    have under : (m + 1 : Rat) ≤ 0 := by exact_mod_cast below
    rw [neg_iff_toRat? is]
    exact iff_of_true (high.trans_le (div_nonpos_of_nonpos_of_nonneg under divisor.le)) below
  · obtain ⟨negative, n, denominator, same, _, scaled⟩ := div_eq_ofRatio first second positive
    have none : n = 0 := by simpa [positive.ne'] using scaled
    have quotient : x / y = zero negative := by rw [same, none, ofRatio, if_pos rfl]
    rw [quotient]
    cases negative <;> decide
  · obtain ⟨a, is, low, _⟩ := exists_div positive bounded first second small
    have reached : (0 : Rat) ≤ m - 1 := by
      rw [sub_nonneg]
      exact_mod_cast above
    rw [neg_iff_toRat? is]
    exact iff_of_false ((div_nonneg reached divisor.le).trans_lt low).le.not_gt above.le.not_gt

/-- A rounded quotient has reached the whole numbers that the exact one has reached. -/
theorem le_div {n : Nat} (first : x.toInt? = some (n : Int)) (second : y.toInt? = some (d : Int))
    (small : n < 2 ^ (53 : Nat)) {a : Rat} (is : (x / y).toRat? = some a) : ((n / d : Nat) : Rat) ≤ a := by
  obtain ⟨negative, numerator, denominator, same, above, scaled⟩ := div_eq_ofRatio first second positive
  obtain ⟨units, known, rfl⟩ := toRat?_eq_some_iff.mp is
  have unsigned : ¬x / y < 0 := by
    rw [div_lt_zero_iff positive bounded first second (by simpa using small)]
    omega
  rw [neg_iff_units known] at unsigned
  rw [Int.natAbs_natCast] at scaled
  have reached : n / d * denominator ≤ numerator := by
    apply Nat.le_of_mul_le_mul_right _ positive
    rw [scaled, Nat.mul_right_comm]
    exact Nat.mul_le_mul_right denominator (Nat.div_mul_le_self n d)
  have range : numerator < 2 ^ (53 : Nat) * denominator := by
    apply Nat.lt_of_mul_lt_mul_right (a := d)
    calc numerator * d = n * denominator := scaled
      _ < 2 ^ (53 : Nat) * denominator := Nat.mul_lt_mul_of_pos_right small above
      _ ≤ 2 ^ (53 : Nat) * denominator * d := Nat.le_mul_of_pos_right _ positive
  rw [same] at known
  have kept := le_units_of_ofRatio above reached range known
  have whole : ((n / d * unitsPerOne : Nat) : Int) ≤ units := by omega
  have one : (0 : Rat) < unitsPerOne := by exact_mod_cast unitsPerOne_pos
  rw [le_div_iff₀ one, ← Nat.cast_mul, ← Int.cast_natCast, Int.cast_le]
  exact whole

end whole

/-- Division and `floor` give the whole part of the exact quotient. -/
theorem toInt?_floor_div {n d : Nat} (first : x.toInt? = some (n : Int)) (second : y.toInt? = some (d : Int))
    (small : n < 2 ^ (53 : Nat)) (many : 2 ≤ d) (bounded : d ≤ 2 ^ (53 : Nat)) :
    (x / y).floor.toInt? = some ((n / d : Nat) : Int) := by
  have positive : 0 < d := Nat.lt_of_lt_of_le Nat.two_pos many
  obtain ⟨a, is, _, high⟩ := exists_div positive bounded first second (by simpa using small)
  have divisor : (0 : Rat) < d := by exact_mod_cast positive
  have least := le_div positive bounded first second small is
  have most : a < ((n / d : Nat) : Rat) + 1 := by
    refine high.trans_le ?_
    rw [div_le_iff₀ divisor, mul_comm, Int.cast_natCast]
    exact_mod_cast Nat.succ_le_of_lt (Nat.lt_mul_div_succ n positive)
  have bound : |a| < 2 ^ (52 : Nat) := by
    have quotient : n / d < 2 ^ (52 : Nat) := by
      rw [Nat.div_lt_iff_lt_mul positive]
      omega
    have below : ((n / d : Nat) : Rat) + 1 ≤ 2 ^ (52 : Nat) := by exact_mod_cast quotient
    rw [abs_of_nonneg ((Nat.cast_nonneg _).trans least)]
    exact most.trans_le below
  rw [toInt?_floor is bound, Option.some.injEq, Int.floor_eq_iff]
  exact ⟨least, most⟩

/-- A remainder of whole numbers is exact. -/
theorem toInt?_rem {n d : Nat} (first : x.toInt? = some (n : Int)) (second : y.toInt? = some (d : Int))
    (small : n < 2 ^ (53 : Nat)) (positive : 0 < d) : (x % y).toInt? = some ((n % d : Nat) : Int) := by
  obtain ⟨negative, s, t, exponent, _, rest, dividend, divisor, sign⟩ := exists_common_scale first second positive
  rw [Int.natAbs_natCast] at dividend sign
  have value : s % t * 2 ^ exponent = n % d * unitsPerOne := by
    rw [← Nat.mul_mod_mul_right, dividend, divisor, Nat.mul_mod_mul_right]
  rw [rest, toInt?_ofScaled negative _ _ ((Nat.mod_le n d).trans_lt small) value, Option.some.injEq]
  cases negative with
  | false => rfl
  | true =>
    simp only [signed, ↓reduceIte] at sign
    have none : n = 0 := by omega
    rw [none, Nat.zero_mod]
    rfl

/-- A whole number is written as its numeral, whichever zero it may be. -/
theorem text_of_toInt? {n : Nat} (whole : x.toInt? = some (n : Int)) (small : n < 2 ^ (53 : Nat)) :
    x.text = Text.numeral n := by
  by_cases some : n = 0
  · subst some
    cases x with
    | nan => cases whole
    | infinite negative => cases whole
    | finite p s e _ =>
      obtain ⟨_, size⟩ := units_of_finite whole
      have none : s = 0 := by simpa [(Nat.two_pow_pos e).ne'] using size
      simp [text, none, Text.numeral]
  · rw [eq_of_toInt? whole (toInt?_ofNat small) (by exact_mod_cast some), text_ofNat small]

end Spreadsheet.Number
