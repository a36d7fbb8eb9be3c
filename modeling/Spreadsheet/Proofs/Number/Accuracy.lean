import Mathlib.Algebra.Order.Field.Basic
import Mathlib.Data.Rat.Floor
import Mathlib.Tactic.FieldSimp
import Mathlib.Tactic.Linarith
import Mathlib.Tactic.LinearCombination
import Mathlib.Tactic.Positivity
import Mathlib.Tactic.Ring
import Spreadsheet.Proofs.Number.Quotient

/-! How far a result is from the exact one. Each operation is off by one part in `2 ^ 53` and by half of the least
number at most, as long as the exact result is within range; whole parts of small numbers are exact. -/
namespace Spreadsheet.Number
attribute [local instance (high)] instPowNat

variable {x y : Number} {a b value exact : Rat}

private theorem one_pos : (0 : Rat) < unitsPerOne := by exact_mod_cast unitsPerOne_pos

private theorem signed_cast (negative : Bool) (m : Nat) :
    ((signed negative m : Int) : Rat) = (signed negative 1 : Int) * (m : Rat) := by
  cases negative <;> simp [signed]

theorem toRat?_finite (negative : Bool) {s e : Nat}
    (canonical : s < 2 ^ (53 : Nat) ∧ e ≤ 2045 ∧ (e = 0 ∨ 2 ^ (52 : Nat) ≤ s)) :
    (finite negative s e canonical).toRat? = some ((signed negative (s * 2 ^ e) : Rat) / unitsPerOne) := by
  have same : ((fraction s e).1 : Rat) * unitsPerOne = ((s * 2 ^ e : Nat) : Rat) * (fraction s e).2 := by
    exact_mod_cast fraction_units s e
  have below : ((fraction s e).2 : Rat) ≠ 0 := by exact_mod_cast (fraction_pos s e).ne'
  have quotient : ((fraction s e).1 : Rat) / (fraction s e).2 = ((s * 2 ^ e : Nat) : Rat) / unitsPerOne := by
    rw [div_eq_div_iff below one_pos.ne', same]
  change some (((signed negative (fraction s e).1 : Int) : Rat) / (fraction s e).2) = _
  rw [signed_cast negative (fraction s e).1, mul_div_assoc, quotient, ← mul_div_assoc, ← signed_cast]

/-- A finite number is as many times the least one as it has units. -/
theorem toRat?_eq_some_iff :
    x.toRat? = some value ↔ ∃ units : Int, x.units? = some units ∧ value = units / unitsPerOne := by
  cases x with
  | nan => simp only [toRat?, units?, reduceCtorEq, false_and, exists_false]
  | infinite negative => simp only [toRat?, units?, reduceCtorEq, false_and, exists_false]
  | finite negative s e canonical =>
    rw [toRat?_finite]
    simp only [units?, Option.some.injEq, exists_eq_left']
    exact eq_comm

theorem toRat?_of_toInt? {k : Int} (whole : x.toInt? = some k) : x.toRat? = some k := by
  refine toRat?_eq_some_iff.mpr ⟨_, toInt?_eq_some_iff.mp whole, ?_⟩
  push_cast
  rw [mul_div_cancel_right₀ _ one_pos.ne']

/-- Half of the least number. -/
def halfUnit : Rat := 1 / (2 * unitsPerOne)

/-- A finite number next to an exact value: it is off by one part in `2 ^ 53` and by half of the least number at
most. -/
def Approximates (x : Number) (exact : Rat) : Prop :=
  ∃ value, x.toRat? = some value ∧ |value - exact| ≤ |exact| / 2 ^ 53 + halfUnit

private theorem abs_signed_one (negative : Bool) : |((signed negative 1 : Int) : Rat)| = 1 := by
  cases negative <;> simp [signed]

/-- The nearest whole number to a quotient, in exact arithmetic. -/
theorem abs_nearestEven_sub (n : Nat) {d : Nat} (positive : 0 < d) :
    |(nearestEven n d : Rat) - n / d| ≤ 1 / 2 := by
  obtain ⟨near, far⟩ := nearestEven_near n positive
  have above : 2 * (n : Rat) ≤ (2 * nearestEven n d + 1) * d := by exact_mod_cast near
  have below : 2 * (nearestEven n d : Rat) * d ≤ 2 * n + d := by exact_mod_cast far
  have some : (0 : Rat) < d := by exact_mod_cast positive
  have product : (n : Rat) / d * d = n := div_mul_cancel₀ _ some.ne'
  rw [abs_le]
  constructor <;> nlinarith

theorem halfUnit_le_of_le {bits : Nat} (fits : bits ≤ bias) : halfUnit ≤ 1 / 2 ^ bits := by
  have least : (2 : Rat) ^ bits ≤ 2 ^ bias := pow_le_pow_right₀ one_le_two fits
  have positive : (0 : Rat) < 2 ^ bits := by positivity
  rw [halfUnit, unitsPerOne, Nat.cast_pow, Nat.cast_ofNat]
  exact one_div_le_one_div_of_le positive (by linarith)

theorem halfUnit_le : halfUnit ≤ 1 / 2 ^ 60 := halfUnit_le_of_le (by decide)

/-- What is not large is within range. -/
theorem abs_lt_of_le (small : |exact| ≤ 2 ^ 60) : |exact| < 2 ^ (1023 : Nat) :=
  small.trans_lt (pow_lt_pow_right₀ one_lt_two (by decide))

/-- The error in terms of a bound on what is approximated. -/
theorem Approximates.exists_near {bound : Rat} (near : Approximates x exact) (small : |exact| ≤ bound) :
    ∃ value, x.toRat? = some value ∧ |value - exact| ≤ bound / 2 ^ 53 + 1 / 2 ^ 60 := by
  obtain ⟨value, is, error⟩ := near
  have scaled : |exact| / 2 ^ 53 ≤ bound / 2 ^ 53 := div_le_div_of_nonneg_right small (by positivity)
  exact ⟨value, is, error.trans (add_le_add scaled halfUnit_le)⟩

/-- The significand is the nearest there is. It counts the least number, or it has all of its bits. -/
theorem approximates_ofSignificand (negative : Bool) {n d e : Nat} (positive : 0 < d) (least : e ≤ 2044)
    (bound : n ≤ 2 ^ (53 : Nat) * d) (normal : e = 0 ∨ 2 ^ (52 : Nat) * d ≤ n) :
    Approximates (ofSignificand negative (nearestEven n d) e)
      ((signed negative n : Rat) / d * 2 ^ e / unitsPerOne) := by
  have units := units_ofSignificand negative least
    (nearestEven_mem positive (by rw [Nat.zero_mul]; exact Nat.zero_le _) bound).2
    (normal.imp_right fun low => (nearestEven_mem positive low bound).1)
  have near := abs_nearestEven_sub n positive
  have divisor : (0 : Rat) < d := by exact_mod_cast positive
  have quotient : (0 : Rat) ≤ n / d := by positivity
  have power : (0 : Rat) < 2 ^ e := by positivity
  -- Before the sign and the scale of units.
  have error : |(nearestEven n d : Rat) - n / d| * 2 ^ e ≤ n / d * 2 ^ e / 2 ^ 53 + 1 / 2 := by
    rcases normal with rfl | full
    · rw [pow_zero, mul_one, mul_one]
      have extra : (0 : Rat) ≤ n / d / 2 ^ 53 := by positivity
      linarith
    · have bits : (2 : Rat) ^ 52 ≤ n / d := by
        rw [le_div_iff₀ divisor]
        exact_mod_cast full
      nlinarith
  refine ⟨_, toRat?_eq_some_iff.mpr ⟨_, units, rfl⟩, ?_⟩
  rw [signed_cast negative (_ * _), signed_cast negative n, Nat.cast_mul]
  have sign := abs_signed_one negative
  generalize ((signed negative 1 : Int) : Rat) = unit at sign ⊢
  have difference : unit * (nearestEven n d * (2 ^ e : Nat)) / unitsPerOne - unit * n / d * 2 ^ e / unitsPerOne =
      unit * ((nearestEven n d - n / d) * 2 ^ e / unitsPerOne) := by
    rw [Nat.cast_pow, Nat.cast_ofNat]
    ring
  have magnitude : unit * n / d * 2 ^ e / unitsPerOne = unit * (n / d * 2 ^ e / unitsPerOne) := by ring
  have scaled : (0 : Rat) ≤ n / d * 2 ^ e / unitsPerOne := div_nonneg (mul_nonneg quotient power.le) one_pos.le
  rw [difference, magnitude, abs_mul, abs_mul, sign, one_mul, one_mul, abs_of_nonneg scaled, abs_div, abs_mul,
    abs_of_pos power, abs_of_pos one_pos, halfUnit]
  calc |(nearestEven n d : Rat) - n / d| * 2 ^ e / unitsPerOne
      ≤ (n / d * 2 ^ e / 2 ^ 53 + 1 / 2) / unitsPerOne := div_le_div_of_nonneg_right error one_pos.le
    _ = n / d * 2 ^ e / unitsPerOne / 2 ^ 53 + 1 / (2 * unitsPerOne) := by ring

theorem approximates_zero (negative : Bool) : Approximates (zero negative) 0 := by
  refine ⟨0, toRat?_of_toInt? (by cases negative <;> decide +kernel), ?_⟩
  have one := one_pos
  rw [sub_zero, abs_zero, zero_div, zero_add, halfUnit]
  positivity

private theorem two_zpow_mul (exponent : Int) (e : Nat) :
    (2 : Rat) ^ exponent * 2 ^ (e - exponent).toNat = 2 ^ (exponent - e).toNat * 2 ^ e := by
  rw [← zpow_natCast, ← zpow_natCast, ← zpow_natCast, ← zpow_add₀ two_ne_zero, ← zpow_add₀ two_ne_zero]
  congr 1
  omega

theorem abs_signed_cast (negative : Bool) (m : Nat) : |((signed negative m : Int) : Rat)| = m := by
  rw [signed_cast, abs_mul, abs_signed_one, one_mul, Nat.abs_cast]

theorem approximates_ofScaled {negative : Bool} {magnitude : Nat} {exponent : Int}
    (same : (signed negative magnitude : Rat) * 2 ^ exponent / unitsPerOne = exact) (range : |exact| < 2 ^ (1023 : Nat)) :
    Approximates (ofScaled negative magnitude exponent) exact := by
  subst same
  rw [abs_div, abs_mul, abs_signed_cast, abs_of_pos one_pos, abs_of_pos (zpow_pos two_pos exponent),
    div_lt_iff₀ one_pos, unitsPerOne, Nat.cast_pow, Nat.cast_ofNat, ← pow_add] at range
  unfold ofScaled
  split
  · rename_i none
    subst none
    have zero : ((signed negative 0 : Int) : Rat) * 2 ^ exponent / unitsPerOne = 0 := by
      rw [signed_cast, Nat.cast_zero, mul_zero, zero_mul, zero_div]
    rw [zero]
    exact approximates_zero negative
  · rename_i positive
    have low := Nat.log2_self_le positive
    have high := Nat.lt_log2_self (n := magnitude)
    have limit : magnitude.log2 + exponent < 2097 := by
      rw [← zpow_lt_zpow_iff_right₀ (show (1 : Rat) < 2 by norm_num), zpow_add₀ two_ne_zero, zpow_natCast]
      calc (2 : Rat) ^ magnitude.log2 * 2 ^ exponent ≤ magnitude * 2 ^ exponent :=
            mul_le_mul_of_nonneg_right (by exact_mod_cast low) (zpow_nonneg two_pos.le exponent)
        _ < 2 ^ (1023 + bias) := range
        _ = 2 ^ (2097 : Int) := (zpow_natCast 2 (1023 + bias)).symm
    dsimp only
    generalize magnitude.log2 = log at *
    generalize target : (exponent + log - 52).toNat = e
    have significand : (if e - exponent ≤ 0 then magnitude * 2 ^ (-(e - exponent)).toNat
        else nearestEven magnitude (2 ^ (e - exponent).toNat)) =
        nearestEven (magnitude * 2 ^ (exponent - e).toNat) (2 ^ (e - exponent).toNat) := by
      split
      · rename_i long
        have exact := nearestEven_mul (magnitude * 2 ^ (exponent - e).toNat) Nat.one_pos
        rw [Nat.mul_one] at exact
        rw [Int.toNat_of_nonpos long, Nat.pow_zero, exact, Int.neg_sub]
      · rename_i short
        rw [Int.toNat_of_nonpos (show exponent - e ≤ 0 by omega), Nat.pow_zero, Nat.mul_one]
    rw [significand]
    have near := approximates_ofSignificand negative (n := magnitude * 2 ^ (exponent - e).toNat) (e := e)
      (Nat.two_pow_pos (e - exponent).toNat) (by omega) ?_ ?_
    · have same : ((signed negative (magnitude * 2 ^ (exponent - e).toNat) : Int) : Rat) /
          (2 ^ (e - exponent).toNat : Nat) * 2 ^ e = signed negative magnitude * 2 ^ exponent := by
        have powers := two_zpow_mul exponent e
        rw [signed_mul]
        push_cast
        rw [div_mul_eq_mul_div, div_eq_iff (by positivity), mul_assoc, mul_assoc, powers]
      rwa [same] at near
    · calc magnitude * 2 ^ (exponent - e).toNat ≤ 2 ^ (log + 1) * 2 ^ (exponent - e).toNat :=
            Nat.mul_le_mul_right _ high.le
        _ = 2 ^ (log + 1 + (exponent - e).toNat) := (Nat.pow_add 2 _ _).symm
        _ ≤ 2 ^ (53 + (e - exponent).toNat) := Nat.pow_le_pow_right Nat.two_pos (by omega)
        _ = 2 ^ (53 : Nat) * 2 ^ (e - exponent).toNat := Nat.pow_add 2 _ _
    · by_cases least : e = 0
      · exact .inl least
      · right
        calc 2 ^ (52 : Nat) * 2 ^ (e - exponent).toNat = 2 ^ (52 + (e - exponent).toNat) := (Nat.pow_add 2 _ _).symm
          _ ≤ 2 ^ (log + (exponent - e).toNat) := Nat.pow_le_pow_right Nat.two_pos (by omega)
          _ = 2 ^ log * 2 ^ (exponent - e).toNat := Nat.pow_add 2 _ _
          _ ≤ magnitude * 2 ^ (exponent - e).toNat := Nat.mul_le_mul_right _ low

theorem approximates_ofRatio {negative : Bool} {n d : Nat} (positive : 0 < d)
    (same : (signed negative n : Rat) / d = exact) (range : |exact| < 2 ^ (1023 : Nat)) :
    Approximates (ofRatio negative n d) exact := by
  subst same
  have divides : (0 : Rat) < d := by exact_mod_cast positive
  rw [abs_div, abs_signed_cast, Nat.abs_cast, div_lt_iff₀ divides] at range
  replace range : n < 2 ^ (1023 : Nat) * d := by exact_mod_cast range
  unfold ofRatio
  split
  · rename_i none
    subst none
    have zero : ((signed negative 0 : Int) : Rat) / d = 0 := by
      rw [signed_cast, Nat.cast_zero, mul_zero, zero_div]
    rw [zero]
    exact approximates_zero negative
  · rename_i some
    have bounds (i j : Nat) (logarithm : floorLog2 n d = (i : Int) - j) :=
      floorLog2_spec (Nat.pos_of_ne_zero some) positive logarithm
    have limit := floorLog2_lt (Nat.pos_of_ne_zero some) positive range
    clear range
    generalize floorLog2 n d = log at bounds limit ⊢
    dsimp only
    generalize exponent : (log + 1022).toNat = e
    have near := approximates_ofSignificand negative (n := n * 2 ^ (1074 - e)) (e := e)
      (Nat.mul_pos positive (Nat.two_pow_pos (e - 1074))) (by omega) ?_ ?_
    · have same : ((signed negative (n * 2 ^ (1074 - e)) : Int) : Rat) / (d * 2 ^ (e - 1074) : Nat) * 2 ^ e /
          unitsPerOne = signed negative n / d := by
        have powers : (2 : Rat) ^ (1074 - e) * 2 ^ e = 2 ^ (e - 1074) * 2 ^ bias := by
          rw [← pow_add, ← pow_add, show 1074 - e + e = e - 1074 + bias by unfold bias; omega]
        have divisor : (d : Rat) ≠ 0 := by exact_mod_cast positive.ne'
        rw [signed_mul, unitsPerOne]
        push_cast
        rw [div_mul_eq_mul_div, div_div, div_eq_div_iff (by positivity) divisor]
        linear_combination ((signed negative n : Int) : Rat) * d * powers
      rwa [same] at near
    all_goals
      obtain ⟨least, most⟩ := bounds (52 + (e - 1074)) ((52 + (e - 1074) : Nat) - log).toNat (by omega)
    · calc n * 2 ^ (1074 - e) ≤ 2 ^ ((52 + (e - 1074) : Nat) - log).toNat * n := by
            rw [Nat.mul_comm]
            exact Nat.mul_le_mul_right n (Nat.pow_le_pow_right Nat.two_pos (by omega))
        _ ≤ 2 ^ (52 + (e - 1074) + 1) * d := most.le
        _ = 2 ^ (53 : Nat) * (d * 2 ^ (e - 1074)) := by
            rw [Nat.add_right_comm, Nat.pow_add, Nat.mul_assoc, Nat.mul_comm d]
    · by_cases none : e = 0
      · exact .inl none
      · rw [show ((52 + (e - 1074) : Nat) - log).toNat = 1074 - e by omega, Nat.pow_add, Nat.mul_assoc] at least
        rw [Nat.mul_comm d, Nat.mul_comm n]
        exact .inr least

/-- A number that is told by magnitudes. -/
private theorem exists_finite (is : x.toRat? = some a) : ∃ negative s e canonical,
    x = finite negative s e canonical ∧ a = (signed negative (s * 2 ^ e) : Rat) / unitsPerOne := by
  cases x with
  | nan => cases is
  | infinite negative => cases is
  | finite negative s e canonical =>
    rw [toRat?_finite] at is
    exact ⟨negative, s, e, canonical, rfl, (Option.some.inj is).symm⟩

theorem approximates_add (first : x.toRat? = some a) (second : y.toRat? = some b)
    (range : |a + b| < 2 ^ (1023 : Nat)) : Approximates (x + y) (a + b) := by
  obtain ⟨m, unitsX, rfl⟩ := toRat?_eq_some_iff.mp first
  obtain ⟨n, unitsY, rfl⟩ := toRat?_eq_some_iff.mp second
  obtain ⟨negative, magnitude, exponent, same, sum⟩ := add_eq_ofScaled unitsX unitsY
  rw [same]
  refine approximates_ofScaled ?_ range
  rw [zpow_natCast, ← add_div, ← Int.cast_add, ← sum, signed_mul]
  push_cast
  rfl

theorem approximates_sub (first : x.toRat? = some a) (second : y.toRat? = some b)
    (range : |a - b| < 2 ^ (1023 : Nat)) : Approximates (x - y) (a - b) := by
  obtain ⟨n, unitsY, rfl⟩ := toRat?_eq_some_iff.mp second
  have opposite : (-y).toRat? = some (-(n / unitsPerOne : Rat)) := by
    refine toRat?_eq_some_iff.mpr ⟨-n, by rw [units_neg, unitsY]; rfl, ?_⟩
    push_cast
    ring
  rw [sub_eq_add_neg] at range ⊢
  exact approximates_add first opposite range

theorem approximates_mul (first : x.toRat? = some a) (second : y.toRat? = some b)
    (range : |a * b| < 2 ^ (1023 : Nat)) : Approximates (x * y) (a * b) := by
  obtain ⟨p, s, e, _, rfl, rfl⟩ := exists_finite first
  obtain ⟨q, t, f, _, rfl, rfl⟩ := exists_finite second
  have powers : (2 : Rat) ^ (e + f - 1074 : Int) = 2 ^ e * 2 ^ f / unitsPerOne := by
    rw [zpow_sub₀ two_ne_zero, zpow_add₀ two_ne_zero, zpow_natCast, zpow_natCast, unitsPerOne, Nat.cast_pow,
      Nat.cast_ofNat]
    rfl
  refine approximates_ofScaled ?_ range
  rw [powers, ← signed_mul_signed, signed_mul, signed_mul]
  push_cast
  ring

theorem approximates_div (first : x.toRat? = some a) (second : y.toRat? = some b) (divides : b ≠ 0)
    (range : |a / b| < 2 ^ (1023 : Nat)) : Approximates (x / y) (a / b) := by
  obtain ⟨p, s, e, _, rfl, rfl⟩ := exists_finite first
  obtain ⟨q, t, f, _, rfl, rfl⟩ := exists_finite second
  have some : t ≠ 0 := by
    rintro rfl
    exact divides (by rw [Nat.zero_mul, signed_cast, Nat.cast_zero, mul_zero, zero_div])
  change Approximates (div _ _) _
  rw [div, if_neg some]
  refine approximates_ofRatio (Nat.mul_pos (Nat.pos_of_ne_zero some) (Nat.two_pow_pos _)) ?_ range
  have powers : (2 : Rat) ^ (e - f) * 2 ^ f = 2 ^ (f - e) * 2 ^ e := by
    rw [← pow_add, ← pow_add, Nat.sub_add_eq_max, Nat.sub_add_eq_max, max_comm]
  have sign : ((signed (p != q) 1 : Int) : Rat) * (signed q 1 : Int) = (signed p 1 : Int) := by
    cases p <;> cases q <;> simp [signed]
  have unit : ((signed q 1 : Int) : Rat) ≠ 0 := by cases q <;> simp [signed]
  have significant : (t : Rat) ≠ 0 := by exact_mod_cast some
  rw [div_div_div_cancel_right₀ one_pos.ne', signed_cast (p != q), signed_cast p, signed_cast q]
  push_cast
  rw [div_eq_div_iff (by positivity) (by positivity)]
  linear_combination ((s : Rat) * 2 ^ (e - f) * t * 2 ^ f) * sign + ((signed p 1 : Int) : Rat) * s * t * powers

/-- The quotient of two whole numbers, the first of less than 54 bits, is finite. -/
theorem isFinite_div {m n : Int} (first : x.toInt? = some m) (second : y.toInt? = some n)
    (small : m.natAbs < 2 ^ (53 : Nat)) (divides : n ≠ 0) : (x / y).isFinite = true := by
  have dividend : |(m : Rat)| ≤ 2 ^ 53 := by
    rw [← Int.cast_abs, Int.abs_eq_natAbs]
    exact_mod_cast small.le
  have divisor : (1 : Rat) ≤ |(n : Rat)| := by exact_mod_cast Int.one_le_abs divides
  have quotient : |(m : Rat) / n| ≤ 2 ^ 60 := by
    rw [abs_div, div_le_iff₀ (by linarith)]
    linarith
  obtain ⟨value, is, _⟩ := approximates_div (toRat?_of_toInt? first) (toRat?_of_toInt? second)
    (by exact_mod_cast divides) (abs_lt_of_le quotient)
  obtain ⟨negative, s, e, canonical, same, _⟩ := exists_finite is
  rw [same]
  rfl

/-- The whole part of a small quotient is exact. -/
private theorem toInt?_ofScaled_floor {negative : Bool} {magnitude d : Nat} {n : Int} (positive : 0 < d)
    (low : signed negative (magnitude * d) ≤ n) (high : n < signed negative (magnitude * d) + d)
    (small : |(n : Rat) / d| < 2 ^ (52 : Nat) + 1) :
    (ofScaled negative magnitude bias).toInt? = some ⌊(n : Rat) / d⌋ := by
  have divisor : (0 : Rat) < d := by exact_mod_cast positive
  have floor : ⌊(n : Rat) / d⌋ = signed negative magnitude := by
    rw [signed_mul] at low high
    rw [Int.floor_eq_iff, le_div_iff₀ divisor, div_lt_iff₀ divisor, add_mul, one_mul]
    exact ⟨by exact_mod_cast low, by exact_mod_cast high⟩
  have bound : magnitude < 2 ^ (53 : Nat) := by
    obtain ⟨below, above⟩ := abs_lt.mp small
    have least : (-(2 ^ (52 : Nat) + 1) : Int) ≤ ⌊(n : Rat) / d⌋ := Int.le_floor.mpr (by exact_mod_cast below.le)
    have most : ⌊(n : Rat) / d⌋ < (2 ^ (52 : Nat) + 1 : Int) := Int.floor_lt.mpr (by exact_mod_cast above)
    rw [floor] at least most
    rw [← natAbs_signed negative magnitude]
    omega
  rw [toInt?_ofScaled negative magnitude bias bound rfl, floor]

theorem toInt?_floor (is : x.toRat? = some a) (small : |a| < 2 ^ (52 : Nat)) : x.floor.toInt? = some ⌊a⌋ := by
  cases x with
  | nan => cases is
  | infinite negative => cases is
  | finite negative s e canonical =>
    obtain rfl : ((signed negative (fraction s e).1 : Int) : Rat) / (fraction s e).2 = a := Option.some.inj is
    have positive := fraction_pos s e
    simp only [floor]
    generalize (fraction s e).1 = n at *
    generalize (fraction s e).2 = d at *
    refine toInt?_ofScaled_floor positive ?_ ?_ (small.trans (by linarith))
    all_goals
      have down := Nat.lt_div_mul_add (a := n) positive
      have least := Nat.div_mul_le_self n d
      have up := Nat.lt_div_mul_add (a := n + (d - 1)) positive
      have most := Nat.div_mul_le_self (n + (d - 1)) d
      cases negative <;> simp only [signed, Bool.false_eq_true, ↓reduceIte] <;> omega

theorem toInt?_round (is : x.toRat? = some a) (small : |a| < 2 ^ (52 : Nat)) :
    x.round.toInt? = some ⌊a + 1 / 2⌋ := by
  cases x with
  | nan => cases is
  | infinite negative => cases is
  | finite negative s e canonical =>
    obtain rfl : ((signed negative (fraction s e).1 : Int) : Rat) / (fraction s e).2 = a := Option.some.inj is
    have positive := fraction_pos s e
    simp only [round]
    generalize (fraction s e).1 = n at *
    generalize (fraction s e).2 = d at *
    have divisor : (d : Rat) ≠ 0 := by exact_mod_cast positive.ne'
    have half : ((signed negative n : Int) : Rat) / d + 1 / 2 =
        ((2 * signed negative n + d : Int) : Rat) / (2 * d : Nat) := by
      push_cast
      field_simp
    rw [half] 
    refine toInt?_ofScaled_floor (Nat.mul_pos Nat.two_pos positive) ?_ ?_ ?_
    · have least := Nat.div_mul_le_self (2 * n + d) (2 * d)
      have most := Nat.lt_div_mul_add (a := 2 * n + (d - 1)) (Nat.mul_pos Nat.two_pos positive)
      cases negative <;> simp only [signed, Bool.false_eq_true, ↓reduceIte] <;> omega
    · have least := Nat.div_mul_le_self (2 * n + (d - 1)) (2 * d)
      have most := Nat.lt_div_mul_add (a := 2 * n + d) (Nat.mul_pos Nat.two_pos positive)
      cases negative <;> simp only [signed, Bool.false_eq_true, ↓reduceIte] <;> omega
    · rw [← half]
      refine (abs_add_le _ _).trans_lt ?_
      rw [abs_of_pos (show (0 : Rat) < 1 / 2 by norm_num)]
      linarith

end Spreadsheet.Number
