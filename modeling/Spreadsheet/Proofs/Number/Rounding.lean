import Mathlib.Tactic.Linarith
import Mathlib.Tactic.Ring
import Spreadsheet.Number.Basic

/-! Sums of numbers against exact sums. Values are told in units of `2 ^ -1074`, of which every finite number is a
whole count: a sum that is a small whole number is exact, and a small whole sum was rounded by a quarter at most. -/
namespace Spreadsheet.Number
attribute [local instance (high)] instPowNat

/-- The value of a finite number in units of `2 ^ -1074`. -/
def units? : Number → Option Int
  | finite negative significand exponent _ => some (signed negative (significand * 2 ^ exponent))
  | _ => none

/-- The exponent of one in a canonical form. -/
def bias : Nat := 1074

/-- How many units make one. -/
def unitsPerOne : Nat := 2 ^ bias

theorem unitsPerOne_pos : 0 < unitsPerOne := Nat.two_pow_pos bias

theorem signed_mul (negative : Bool) (m n : Nat) : signed negative (m * n) = signed negative m * n := by
  cases negative <;> simp [signed]

theorem natAbs_signed (negative : Bool) (magnitude : Nat) : (signed negative magnitude).natAbs = magnitude := by
  cases negative
  · exact Int.natAbs_natCast magnitude
  · exact (Int.natAbs_neg _).trans (Int.natAbs_natCast magnitude)

private theorem scale_units (significand exponent bias : Nat) :
    significand * 2 ^ (exponent - bias) * 2 ^ bias = significand * 2 ^ exponent * 2 ^ (bias - exponent) := by
  rw [Nat.mul_assoc, Nat.mul_assoc, ← Nat.pow_add, ← Nat.pow_add]
  congr 2
  omega

/-- A fraction has as many units as the number. -/
theorem fraction_units (significand exponent : Nat) :
    (fraction significand exponent).1 * unitsPerOne =
      significand * 2 ^ exponent * (fraction significand exponent).2 := scale_units significand exponent bias

theorem fraction_pos (significand exponent : Nat) : 0 < (fraction significand exponent).2 :=
  Nat.two_pow_pos _

/-- A number is whole if and only if its units make up ones. -/
theorem toInt?_eq_some_iff {x : Number} {k : Int} : x.toInt? = some k ↔ x.units? = some (k * unitsPerOne) := by
  cases x with
  | nan => constructor <;> intro whole <;> cases whole
  | infinite negative => constructor <;> intro whole <;> cases whole
  | finite negative s e canonical =>
    have same := fraction_units s e
    have positive := fraction_pos s e
    simp only [toInt?, units?]
    generalize (fraction s e).1 = n at same
    generalize (fraction s e).2 = d at same positive
    have one := unitsPerOne_pos
    constructor
    · intro whole
      split at whole
      · rename_i divides
        cases whole
        obtain ⟨q, rfl⟩ := Nat.dvd_of_mod_eq_zero divides
        rw [Nat.mul_div_cancel_left q positive]
        have value : s * 2 ^ e = q * unitsPerOne := by
          apply Nat.eq_of_mul_eq_mul_right positive
          rw [← same]
          ring
        rw [value, signed_mul]
      · cases whole
    · intro whole
      have value : s * 2 ^ e = k.natAbs * unitsPerOne := by
        have magnitudes := congrArg Int.natAbs (Option.some.inj whole)
        rw [Int.natAbs_mul, Int.natAbs_natCast] at magnitudes
        rw [← magnitudes, natAbs_signed]
      have divides : n = k.natAbs * d := by
        apply Nat.eq_of_mul_eq_mul_right one
        rw [same, value]
        ring
      have sign : signed negative k.natAbs = k := by
        apply Int.eq_of_mul_eq_mul_right (a := (unitsPerOne : Int)) (by exact_mod_cast one.ne')
        rw [← signed_mul, ← value]
        exact Option.some.inj whole
      rw [divides, if_pos (by simp), Nat.mul_div_cancel _ positive, sign]

/-- The nearest whole number is a half away at most. -/
theorem nearestEven_near (n : Nat) {d : Nat} (positive : 0 < d) :
    2 * n ≤ (2 * nearestEven n d + 1) * d ∧ 2 * nearestEven n d * d ≤ 2 * n + d := by
  have division := Nat.div_add_mod n d
  have small := Nat.mod_lt n positive
  unfold nearestEven
  simp only
  generalize n / d = q at *
  generalize n % d = r at *
  subst division
  split
  · rename_i upward
    have half : d ≤ 2 * r := by omega
    constructor <;> nlinarith
  · rename_i downward
    have half : 2 * r ≤ d := by omega
    constructor <;> nlinarith

theorem nearestEven_mul (q : Nat) {d : Nat} (positive : 0 < d) : nearestEven (q * d) d = q := by
  unfold nearestEven
  simp [Nat.mul_div_cancel _ positive]
  omega

/-- The value of a significand that needs no greater exponent than there is. -/
theorem units_ofSignificand (negative : Bool) {significand exponent : Nat} (least : exponent ≤ 2044)
    (bound : significand ≤ 2 ^ (53 : Nat)) (normal : exponent = 0 ∨ 2 ^ (52 : Nat) ≤ significand) :
    (ofSignificand negative significand exponent).units? = some (signed negative (significand * 2 ^ exponent)) := by
  unfold ofSignificand
  split
  · rfl
  · rename_i large
    have carried : significand = 2 ^ (53 : Nat) := by omega
    rw [dif_pos ⟨by omega, carried⟩]
    simp only [units?, carried]
    congr 2
    rw [Nat.pow_succ 2 exponent, Nat.mul_comm (2 ^ exponent), ← Nat.mul_assoc]

/-- A significand tells the value of what is finite. -/
theorem units_of_ofSignificand {negative : Bool} {significand exponent : Nat} {value : Int}
    (finite : (ofSignificand negative significand exponent).units? = some value) :
    value = signed negative (significand * 2 ^ exponent) := by
  unfold ofSignificand at finite
  split at finite
  · exact (Option.some.inj finite).symm
  · split at finite
    · rename_i carried
      rw [← Option.some.inj finite, carried.2]
      congr 1
      rw [Nat.pow_succ 2 exponent, Nat.mul_comm (2 ^ exponent), ← Nat.mul_assoc]
    · cases finite

/-- A significand of 53 bits for a magnitude, at the exponent that is left for it. -/
structure Rounds (magnitude exponent significand target : Nat) : Prop where
  bound : significand ≤ 2 ^ (53 : Nat)
  normal : target = 0 ∨ 2 ^ (52 : Nat) ≤ significand
  exact : 2 ^ target ∣ magnitude * 2 ^ exponent → significand * 2 ^ target = magnitude * 2 ^ exponent
  above : 2 * (magnitude * 2 ^ exponent) ≤ 2 * (significand * 2 ^ target) + 2 ^ target
  below : 2 * (significand * 2 ^ target) ≤ 2 * (magnitude * 2 ^ exponent) + 2 ^ target

private theorem rounds_short {magnitude exponent : Nat} (positive : magnitude ≠ 0) (short : magnitude.log2 ≤ 52) :
    Rounds magnitude exponent (magnitude * 2 ^ (exponent - (exponent + magnitude.log2 - 52)))
      (exponent + magnitude.log2 - 52) := by
  have low := Nat.log2_self_le positive
  have high := Nat.lt_log2_self (n := magnitude)
  generalize bits : magnitude.log2 = log at *
  have same : magnitude * 2 ^ (exponent - (exponent + log - 52)) * 2 ^ (exponent + log - 52) =
      magnitude * 2 ^ exponent := by
    rw [Nat.mul_assoc, ← Nat.pow_add]
    congr 2
    omega
  refine ⟨?_, ?_, fun _ => same, by rw [same]; exact Nat.le_add_right _ _, by rw [same]; exact Nat.le_add_right _ _⟩
  · calc magnitude * 2 ^ (exponent - (exponent + log - 52))
        ≤ 2 ^ (log + 1) * 2 ^ (52 - log) :=
          Nat.mul_le_mul (by omega) (Nat.pow_le_pow_right (by decide) (by omega))
      _ = 2 ^ (53 : Nat) := by
          rw [← Nat.pow_add]
          congr 1
          omega
  · by_cases least : exponent + log ≤ 52
    · exact .inl (by omega)
    · right
      calc 2 ^ (52 : Nat) = 2 ^ log * 2 ^ (52 - log) := by
            rw [← Nat.pow_add]
            congr 1
            omega
        _ ≤ magnitude * 2 ^ (exponent - (exponent + log - 52)) :=
          Nat.mul_le_mul low (Nat.pow_le_pow_right (by decide) (by omega))

private theorem rounds_long {magnitude exponent : Nat} (positive : magnitude ≠ 0) (long : 52 < magnitude.log2) :
    Rounds magnitude exponent (nearestEven magnitude (2 ^ (magnitude.log2 - 52)))
      (exponent + magnitude.log2 - 52) := by
  have low := Nat.log2_self_le positive
  have high := Nat.lt_log2_self (n := magnitude)
  generalize bits : magnitude.log2 = log at *
  obtain ⟨shift, rfl⟩ : ∃ shift, log = 52 + shift := ⟨log - 52, by omega⟩
  have target : exponent + (52 + shift) - 52 = shift + exponent := by omega
  rw [target, Nat.add_sub_cancel_left]
  have unit : 0 < 2 ^ shift := Nat.two_pow_pos shift
  obtain ⟨near, far⟩ := nearestEven_near magnitude unit
  rw [Nat.pow_add] at low
  rw [show 52 + shift + 1 = 53 + shift by omega, Nat.pow_add] at high
  have scale : 0 < 2 ^ exponent := Nat.two_pow_pos exponent
  refine ⟨?_, .inr ?_, ?_, ?_, ?_⟩
  · nlinarith
  · nlinarith
  · intro divides
    rw [Nat.pow_add] at divides
    obtain ⟨q, rfl⟩ := Nat.dvd_of_mul_dvd_mul_right scale divides
    rw [Nat.mul_comm (2 ^ shift) q, nearestEven_mul q unit, Nat.pow_add, Nat.mul_assoc]
  · rw [Nat.pow_add]
    nlinarith
  · rw [Nat.pow_add]
    nlinarith

/-- Rounding keeps 53 bits of a magnitude, or those that the least exponent leaves. -/
private theorem ofScaled_eq (negative : Bool) {magnitude : Nat} (exponent : Nat) (positive : magnitude ≠ 0) :
    ∃ significand, ofScaled negative magnitude exponent =
        ofSignificand negative significand (exponent + magnitude.log2 - 52) ∧
      Rounds magnitude exponent significand (exponent + magnitude.log2 - 52) := by
  have target : ((exponent : Int) + magnitude.log2 - 52).toNat = exponent + magnitude.log2 - 52 := by omega
  unfold ofScaled
  simp only [positive, ↓reduceIte, target]
  by_cases short : magnitude.log2 ≤ 52
  · refine ⟨_, ?_, rounds_short positive short⟩
    rw [if_pos (by omega)]
    congr 3
    omega
  · refine ⟨_, ?_, rounds_long positive (by omega)⟩
    rw [if_neg (by omega)]
    congr 3
    omega

private theorem units_zero (negative : Bool) : (zero negative).units? = some 0 := by
  cases negative <;> simp [units?, zero, signed]

theorem ofScaled_zero (negative : Bool) (exponent : Int) : ofScaled negative 0 exponent = zero negative := rfl

/-- A whole number of less than 54 bits is not rounded. -/
theorem toInt?_ofScaled (negative : Bool) (magnitude exponent : Nat) {k : Nat} (small : k < 2 ^ (53 : Nat))
    (value : magnitude * 2 ^ exponent = k * unitsPerOne) :
    (ofScaled negative magnitude exponent).toInt? = some (signed negative k) := by
  rw [toInt?_eq_some_iff, ← signed_mul, ← value]
  by_cases positive : magnitude = 0
  · subst positive
    rw [ofScaled_zero, units_zero]
    cases negative <;> simp [signed]
  · obtain ⟨significand, same, rounds⟩ := ofScaled_eq negative exponent positive
    -- The magnitude is below 2 ^ 53, so the exponent left for it is not above that of one.
    have least : exponent + magnitude.log2 < 53 + bias := by
      apply (Nat.pow_lt_pow_iff_right (a := 2) (by decide)).mp
      calc 2 ^ (exponent + magnitude.log2) = 2 ^ magnitude.log2 * 2 ^ exponent := by
            rw [Nat.pow_add, Nat.mul_comm]
        _ ≤ magnitude * 2 ^ exponent := Nat.mul_le_mul_right _ (Nat.log2_self_le positive)
        _ = k * 2 ^ bias := value
        _ < 2 ^ (53 : Nat) * 2 ^ bias := Nat.mul_lt_mul_of_pos_right small (Nat.two_pow_pos _)
        _ = 2 ^ (53 + bias) := (Nat.pow_add 2 53 bias).symm
    have divides : 2 ^ (exponent + magnitude.log2 - 52) ∣ magnitude * 2 ^ exponent := by
      rw [value]
      exact Nat.dvd_mul_left_of_dvd (Nat.pow_dvd_pow 2 (by omega)) k
    have limit : bias = 1074 := rfl
    rw [same, units_ofSignificand negative (by omega) rounds.bound rounds.normal, rounds.exact divides]

/-- Rounding leaves whole numbers whole. -/
theorem dvd_of_ofScaled {negative : Bool} {magnitude exponent : Nat} {value : Int}
    (whole : unitsPerOne ∣ magnitude * 2 ^ exponent)
    (finite : (ofScaled negative magnitude exponent).units? = some value) : (unitsPerOne : Int) ∣ value := by
  rw [Int.natCast_dvd]
  by_cases positive : magnitude = 0
  · subst positive
    rw [ofScaled_zero, units_zero, Option.some.injEq] at finite
    simp [← finite]
  · obtain ⟨significand, same, rounds⟩ := ofScaled_eq negative exponent positive
    generalize exponent + magnitude.log2 - 52 = target at same rounds
    rw [same] at finite
    rw [units_of_ofSignificand finite, natAbs_signed]
    rcases Nat.le_total target bias with fine | coarse
    · rw [rounds.exact ((Nat.pow_dvd_pow 2 fine).trans whole)]
      exact whole
    · exact Nat.dvd_mul_left_of_dvd (Nat.pow_dvd_pow 2 coarse) significand

/-- A small whole number was rounded by a quarter at most. -/
theorem near_of_toInt?_ofScaled {negative : Bool} {magnitude exponent : Nat} {k : Int}
    (whole : (ofScaled negative magnitude exponent).toInt? = some k) (small : k.natAbs < 2 ^ (51 : Nat)) :
    4 * (signed negative (magnitude * 2 ^ exponent) - k * unitsPerOne).natAbs ≤ unitsPerOne := by
  rw [toInt?_eq_some_iff] at whole
  by_cases positive : magnitude = 0
  · subst positive
    rw [ofScaled_zero, units_zero, Option.some.injEq] at whole
    rw [← whole]
    cases negative <;> simp [signed]
  · obtain ⟨significand, same, rounds⟩ := ofScaled_eq negative exponent positive
    generalize exponent + magnitude.log2 - 52 = target at same rounds
    rw [same] at whole
    have value := units_of_ofSignificand whole
    have size : significand * 2 ^ target = k.natAbs * unitsPerOne := by
      have magnitudes := congrArg Int.natAbs value
      rw [Int.natAbs_mul, Int.natAbs_natCast] at magnitudes
      rw [magnitudes, natAbs_signed]
    -- A half of the last place is what was rounded by, and the last place is a half of one at most.
    have place : 2 * 2 ^ target ≤ unitsPerOne := by
      rcases rounds.normal with rfl | normal
      · decide +kernel
      · have lower : 52 + target < 51 + bias := by
          apply (Nat.pow_lt_pow_iff_right (a := 2) (by decide)).mp
          calc 2 ^ (52 + target) = 2 ^ (52 : Nat) * 2 ^ target := Nat.pow_add 2 52 target
            _ ≤ significand * 2 ^ target := Nat.mul_le_mul_right _ normal
            _ = k.natAbs * 2 ^ bias := size
            _ < 2 ^ (51 : Nat) * 2 ^ bias := Nat.mul_lt_mul_of_pos_right small (Nat.two_pow_pos _)
            _ = 2 ^ (51 + bias) := (Nat.pow_add 2 51 bias).symm
        calc 2 * 2 ^ target = 2 ^ (target + 1) := by rw [Nat.pow_succ, Nat.mul_comm]
          _ ≤ 2 ^ bias := Nat.pow_le_pow_right (by decide) (by omega)
    have above := rounds.above
    have below := rounds.below
    rw [value]
    generalize magnitude * 2 ^ exponent = exact at above below ⊢
    generalize significand * 2 ^ target = rounded at above below ⊢
    cases negative <;> simp only [signed, Bool.false_eq_true, ↓reduceIte] <;> omega

/-- Rounding leaves a half of a magnitude at least. -/
theorem magnitude_le_of_ofScaled {negative : Bool} {magnitude exponent : Nat} {value : Int}
    (finite : (ofScaled negative magnitude exponent).units? = some value) :
    magnitude * 2 ^ exponent ≤ 2 * value.natAbs := by
  by_cases positive : magnitude = 0
  · simp [positive]
  · obtain ⟨significand, same, rounds⟩ := ofScaled_eq negative exponent positive
    generalize exponent + magnitude.log2 - 52 = target at same rounds
    rw [same] at finite
    have size : value.natAbs = significand * 2 ^ target := by rw [units_of_ofSignificand finite, natAbs_signed]
    have above := rounds.above
    rcases rounds.normal with rfl | normal
    · omega
    · have place : 2 ^ target ≤ significand * 2 ^ target := Nat.le_mul_of_pos_left _ (by omega)
      omega

private theorem signed_add {a b : Bool} {m n : Nat} (exponent : Int) :
    ∃ negative magnitude, addScaled a b m n exponent = ofScaled negative magnitude exponent ∧
      signed negative magnitude = signed a m + signed b n := by
  unfold addScaled
  by_cases alike : a = b
  · subst alike
    refine ⟨a, m + n, by simp, ?_⟩
    cases a
    · simp [signed]
    · simp only [signed, ↓reduceIte]
      omega
  · rw [if_neg alike]
    rcases Nat.lt_trichotomy n m with less | same | greater
    · refine ⟨a, m - n, by simp [less], ?_⟩
      cases a <;> cases b <;> simp [signed] at alike ⊢ <;> omega
    · refine ⟨false, 0, by simp [same, ofScaled_zero], ?_⟩
      cases a <;> cases b <;> simp [signed, same] at alike ⊢
    · refine ⟨b, n - m, by rw [if_neg (by omega), if_pos greater], ?_⟩
      cases a <;> cases b <;> simp [signed] at alike ⊢ <;> omega

/-- Two magnitudes are brought to the lesser of their exponents. -/
theorem mul_common_scale (significand exponent other : Nat) :
    significand * 2 ^ (exponent - other) * 2 ^ min exponent other = significand * 2 ^ exponent := by
  rw [Nat.mul_assoc, ← Nat.pow_add]
  congr 2
  omega

/-- A sum is the exact sum, rounded once. -/
theorem add_eq_ofScaled {x y : Number} {a b : Int} (first : x.units? = some a) (second : y.units? = some b) :
    ∃ negative magnitude exponent, x + y = ofScaled negative magnitude (exponent : Nat) ∧
      signed negative (magnitude * 2 ^ exponent) = a + b := by
  cases x with
  | nan => cases first
  | infinite negative => cases first
  | finite p s e canonical =>
    cases y with
    | nan => cases second
    | infinite negative => cases second
    | finite q t f other =>
      have left := mul_common_scale s e f
      have right := mul_common_scale t f e
      rw [Nat.min_comm] at right
      obtain ⟨negative, magnitude, same, sum⟩ :=
        signed_add (a := p) (b := q) (m := s * 2 ^ (e - f)) (n := t * 2 ^ (f - e)) (min e f : Nat)
      refine ⟨negative, magnitude, min e f, same, ?_⟩
      rw [signed_mul, sum, Int.add_mul, ← signed_mul, ← signed_mul, left, right, ← Option.some.inj first,
        ← Option.some.inj second]

/-- Only finite numbers have a finite sum. -/
theorem units_of_add {x y : Number} {k : Int} (whole : (x + y).toInt? = some k) :
    ∃ a b, x.units? = some a ∧ y.units? = some b := by
  cases x with
  | nan => cases whole
  | infinite negative =>
    cases y with
    | nan => cases whole
    | infinite other => cases negative <;> cases other <;> cases whole
    | finite q t f canonical => cases whole
  | finite p s e canonical =>
    cases y with
    | nan => cases whole
    | infinite negative => cases whole
    | finite q t f other => exact ⟨_, _, rfl, rfl⟩

private theorem signed_not (negative : Bool) (magnitude : Nat) :
    signed (!negative) magnitude = -signed negative magnitude := by
  cases negative <;> simp [signed]

theorem units_neg (x : Number) : (-x).units? = x.units?.map Int.neg := by
  cases x with
  | nan => rfl
  | infinite negative => rfl
  | finite negative s e canonical => exact congrArg some (signed_not negative _)

theorem toInt?_neg {x : Number} {a : Int} (whole : x.toInt? = some a) : (-x).toInt? = some (-a) := by
  rw [toInt?_eq_some_iff] at whole ⊢
  rw [units_neg, whole, Int.neg_mul]
  rfl

/-- A small whole sum of whole numbers is exact. -/
theorem toInt?_add {x y : Number} {a b : Int} (first : x.toInt? = some a) (second : y.toInt? = some b)
    (small : (a + b).natAbs < 2 ^ (53 : Nat)) : (x + y).toInt? = some (a + b) := by
  rw [toInt?_eq_some_iff] at first second
  obtain ⟨negative, magnitude, exponent, same, sum⟩ := add_eq_ofScaled first second
  rw [← Int.add_mul] at sum
  have size : magnitude * 2 ^ exponent = (a + b).natAbs * unitsPerOne := by
    have magnitudes := congrArg Int.natAbs sum
    rw [Int.natAbs_mul, Int.natAbs_natCast] at magnitudes
    rw [← magnitudes, natAbs_signed]
  rw [same, toInt?_ofScaled negative magnitude exponent small size]
  have one := unitsPerOne_pos
  rw [size, signed_mul] at sum
  exact congrArg some (Int.eq_of_mul_eq_mul_right (by omega) sum)

theorem toInt?_sub {x y : Number} {a b : Int} (first : x.toInt? = some a) (second : y.toInt? = some b)
    (small : (a - b).natAbs < 2 ^ (53 : Nat)) : (x - y).toInt? = some (a - b) :=
  toInt?_add first (toInt?_neg second) small

/-- Small whole sums with one summand in common differ as the other summands do, whatever that summand is. -/
theorem sub_of_toInt?_add {x y shift : Number} {a b j k : Int} (first : x.toInt? = some a) (second : y.toInt? = some b)
    (start : (x + shift).toInt? = some j) (stop : (y + shift).toInt? = some k) (low : j.natAbs < 2 ^ (51 : Nat))
    (high : k.natAbs < 2 ^ (51 : Nat)) : k - j = b - a := by
  rw [toInt?_eq_some_iff] at first second
  obtain ⟨_, offset, _, common⟩ := units_of_add start
  obtain ⟨p, m, e, sameStart, sumStart⟩ := add_eq_ofScaled first common
  obtain ⟨q, n, f, sameStop, sumStop⟩ := add_eq_ofScaled second common
  have nearStart := near_of_toInt?_ofScaled (sameStart ▸ start) low
  have nearStop := near_of_toInt?_ofScaled (sameStop ▸ stop) high
  rw [sumStart] at nearStart
  rw [sumStop] at nearStop
  have one := unitsPerOne_pos
  -- The two errors together are less than one.
  have apart : ((k - j - (b - a)) * (unitsPerOne : Int)).natAbs < unitsPerOne := by
    simp only [Int.sub_mul]
    omega
  rw [Int.natAbs_mul, Int.natAbs_natCast] at apart
  have none : (k - j - (b - a)).natAbs < 1 := by
    apply Nat.lt_of_mul_lt_mul_right (a := unitsPerOne)
    omega
  omega

/-- To add the difference of two whole numbers to one of them gives the other, if what comes out is small and whole. -/
theorem eq_of_toInt?_add_sub {x y : Number} {a b k : Int} (first : x.toInt? = some a) (second : y.toInt? = some b)
    (whole : (x + (y - x)).toInt? = some k) (small : a.natAbs < 2 ^ (50 : Nat)) (low : k.natAbs < 2 ^ (50 : Nat)) :
    k = b := by
  have one := unitsPerOne_pos
  obtain ⟨_, shift, start, common⟩ := units_of_add whole
  rw [toInt?_eq_some_iff.mp first, Option.some.injEq] at start
  obtain ⟨_, _, _, sameSum, sum⟩ := add_eq_ofScaled (toInt?_eq_some_iff.mp first) common
  have near := near_of_toInt?_ofScaled (sameSum ▸ whole) (by omega)
  rw [sum] at near
  obtain ⟨negative, magnitude, exponent, sameShift, difference⟩ :=
    add_eq_ofScaled (toInt?_eq_some_iff.mp second) (toInt?_eq_some_iff.mp (toInt?_neg first))
  have half := magnitude_le_of_ofScaled (sameShift ▸ (show (y + -x).units? = some shift from common))
  -- The difference is small because its rounded value is, so that it was not rounded at all.
  have close : (b - a).natAbs < 2 ^ (52 : Nat) + 1 := by
    have size : (b - a).natAbs * unitsPerOne = magnitude * 2 ^ exponent := by
      have magnitudes := congrArg Int.natAbs difference
      rw [← Int.add_mul, Int.natAbs_mul, Int.natAbs_natCast, ← Int.sub_eq_add_neg] at magnitudes
      rw [← magnitudes, natAbs_signed]
    apply Nat.lt_of_mul_lt_mul_right (a := unitsPerOne)
    rw [size]
    have bound : (k - a).natAbs * unitsPerOne ≤ 2 ^ (51 : Nat) * unitsPerOne := Nat.mul_le_mul_right _ (by omega)
    have split : ((k - a) * (unitsPerOne : Int)).natAbs = (k - a).natAbs * unitsPerOne := by
      rw [Int.natAbs_mul, Int.natAbs_natCast]
    rw [Int.sub_mul] at split
    omega
  have exact := toInt?_add first (toInt?_sub second first (by omega)) (by omega)
  rw [whole, Option.some.injEq] at exact
  omega

end Spreadsheet.Number
