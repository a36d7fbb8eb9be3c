import Mathlib.Data.Nat.Cast.Field
import Mathlib.Tactic.Linarith
import Mathlib.Tactic.LinearCombination
import Mathlib.Tactic.Ring
import Spreadsheet.Format.Fraction
import Spreadsheet.Proofs.Number.Exact

/-! The closest fraction with a bounded denominator, in exact arithmetic. The search leaves denominators out only where
no fraction over them is closer than the one that is aimed at, or closer than the best one so far. -/
namespace Spreadsheet.Format
attribute [local instance (high)] instPowNat
variable {value : Rat} {n d k b : Nat}

/-- The distance of a value from the closest fraction over a denominator. -/
def errorOver (value : Rat) (denominator : Nat) : Rat := |value - round (value * denominator) / denominator|

/-- The distance from a fraction, in parts of its denominator. -/
theorem abs_sub_div_eq (value : Rat) (positive : 0 < k) (a : Int) : |value - a / k| = |value * k - a| / k := by
  have some : (0 : Rat) < k := by exact_mod_cast positive
  rw [← abs_of_pos some, ← abs_div, abs_of_pos some, sub_div, mul_div_cancel_right₀ _ some.ne']

theorem errorOver_le (value : Rat) (positive : 0 < k) (a : Int) : errorOver value k ≤ |value - a / k| := by
  rw [errorOver, abs_sub_div_eq value positive, abs_sub_div_eq value positive]
  exact div_le_div_of_nonneg_right (round_le (value * k) a) (Nat.cast_nonneg k)

theorem errorOver_nonneg (value : Rat) (k : Nat) : 0 ≤ errorOver value k := abs_nonneg _

theorem tryDenominator_eq (value : Rat) (k : Nat) (best : Approximation Rat) : tryDenominator value k best =
    if errorOver value k < best.error then ⟨round (value * k), k, errorOver value k⟩ else best := by
  unfold tryDenominator
  simp only [Scalar.nearest_eq, Scalar.magnitude_eq, Scalar.less_iff]
  rfl

theorem less_zero_iff {error : Rat} : Scalar.less (Scalar.ofInt 0) error = true ↔ 0 < error := by
  rw [Scalar.less_iff, ← Int.cast_zero]
  rfl

/-- The bound of an error is not below it, with two units of the grid to spare. -/
theorem errorBound_ge (n d : Nat) {error : Rat} (positive : 0 ≤ error) :
    error * grid + 2 ≤ errorBound n d error := by
  have below : (0 : Rat) < error.den := by exact_mod_cast error.den_pos
  have size : error * grid = (error.num.natAbs * grid : Nat) / error.den := by
    rw [Nat.cast_mul, mul_div_right_comm, Scalar.natAbs_num_div_den positive]
  have quotient : ((error.num.natAbs * grid : Nat) : Rat) / error.den <
      (error.num.natAbs * grid / error.den : Nat) + 1 := by
    rw [div_lt_iff₀ below]
    exact_mod_cast Nat.lt_div_mul_add error.den_pos |>.trans_eq (by ring)
  have least : error.num.natAbs * grid / error.den + 3 ≤ errorBound n d error := Nat.le_add_right _ _
  have bound : ((error.num.natAbs * grid / error.den : Nat) : Rat) + 3 ≤ errorBound n d error := by
    exact_mod_cast least
  linarith

theorem grid_pos : (0 : Rat) < grid := by exact_mod_cast Nat.two_pow_pos 60

/-- What a value has beyond its whole part, in units of the grid and rounded down. -/
def gridStep (n d : Nat) : Nat := n % d * grid / d

/-- What a multiple of it has beyond multiples of the grid. -/
def gridRest (n d k : Nat) : Nat := k * gridStep n d % grid

theorem gridRest_le (n d k : Nat) : gridRest n d k ≤ grid := (Nat.mod_lt _ (Nat.two_pow_pos 60)).le

theorem gridRest_one (positive : 0 < d) : gridRest n d 1 = gridStep n d := by
  rw [gridRest, Nat.one_mul]
  refine Nat.mod_eq_of_lt (Nat.div_lt_of_lt_mul ?_)
  exact Nat.mul_lt_mul_of_pos_right (Nat.mod_lt n positive) (Nat.two_pow_pos 60)

/-- A value in units of the grid falls short by less than one unit where its rest is cut. -/
theorem exists_slack (positive : 0 < d) : ∃ slack : Rat, 0 ≤ slack ∧ slack ≤ 1 ∧
    (n / d : Rat) * grid = (n / d : Nat) * grid + gridStep n d + slack := by
  have below : (0 : Rat) < d := by exact_mod_cast positive
  have whole : (n / d : Rat) = (n / d : Nat) + ((n % d : Nat) : Rat) / d := by
    rw [eq_comm, ← eq_sub_iff_add_eq', div_eq_iff below.ne', sub_mul, div_mul_cancel₀ _ below.ne',
      eq_sub_iff_add_eq']
    exact_mod_cast Nat.div_add_mod' n d
  have floor : (gridStep n d : Rat) ≤ (n % d * grid : Nat) / d := by
    rw [le_div_iff₀ below]
    exact_mod_cast Nat.div_mul_le_self _ d
  have above : ((n % d * grid : Nat) : Rat) / d ≤ gridStep n d + 1 := by
    rw [gridStep, div_le_iff₀ below]
    exact_mod_cast (Nat.lt_div_mul_add positive).le.trans_eq (by ring)
  refine ⟨(n % d * grid : Nat) / d - gridStep n d, sub_nonneg.mpr floor, by linarith, ?_⟩
  rw [whole, add_mul, div_mul_eq_mul_div, ← Nat.cast_mul (n % d)]
  ring

/-- The rests follow the multiples of the step. -/
theorem nextRest_eq (positive : 0 < d) (k : Nat) :
    nextRest (gridStep n d) (gridRest n d k) = gridRest n d (k + 1) := by
  have small : gridStep n d < grid := gridRest_one (n := n) positive ▸ Nat.mod_lt _ (Nat.two_pow_pos 60)
  have rest : gridRest n d k < grid := Nat.mod_lt _ (Nat.two_pow_pos 60)
  have next : gridRest n d (k + 1) = (gridRest n d k + gridStep n d) % grid := by
    rw [gridRest, Nat.succ_mul, ← Nat.mod_add_mod, ← gridRest]
  rw [next, nextRest]
  generalize gridRest n d k = rest at *
  generalize gridStep n d = step at *
  split
  · exact (Nat.mod_eq_of_lt ‹_›).symm
  · rw [Nat.mod_eq_sub_mod (not_lt.mp ‹_›), Nat.mod_eq_of_lt (by omega)]

/-- The rest of a multiple of a value tells how far the multiple is from whole numbers, up to one unit of the grid for
each time that the value is taken. -/
theorem min_gridRest_le (positive : 0 < d) (k : Nat) (a : Int) :
    ((min (gridRest n d k) (grid - gridRest n d k) : Nat) : Rat) ≤ grid * |(n / d : Rat) * k - a| + k := by
  obtain ⟨slack, low, high, parts⟩ := exists_slack (n := n) positive
  have wide := grid_pos
  have some : (0 : Rat) ≤ k * slack := mul_nonneg (Nat.cast_nonneg k) low
  have few : (k : Rat) * slack ≤ k := mul_le_of_le_one_right (Nat.cast_nonneg k) high
  have fits := gridRest_le n d k
  have division : grid * (k * gridStep n d / grid) + gridRest n d k = k * gridStep n d := Nat.div_add_mod _ grid
  generalize gridRest n d k = rest at *
  generalize gridStep n d = step at *
  generalize n / d = floor at *
  generalize k * step / grid = times at *
  have scaled : grid * ((n / d : Rat) * k - a) = grid * ((floor * k + times : Nat) - a : Int) + rest + k * slack := by
    have product : (grid * times + rest : Rat) = k * step := by exact_mod_cast division
    push_cast
    linear_combination k * parts - product
  have distance : grid * |(n / d : Rat) * k - a| =
      |grid * ((floor * k + times : Nat) - a : Int) + rest + k * slack| := by
    rw [← scaled, abs_mul, abs_of_pos wide]
  rw [distance, Nat.cast_min, Nat.cast_sub fits]
  generalize ((floor * k + times : Nat) - a : Int) = c
  -- From above the distance is at least the rest, and from below what the rest lacks to a unit.
  rcases lt_or_ge c 0 with negative | more
  · have less : (c : Rat) ≤ -1 := by exact_mod_cast Int.le_sub_one_of_lt negative
    have magnitude := neg_le_abs ((grid : Rat) * c + rest + k * slack)
    have whole : (grid : Rat) * c ≤ -grid := by nlinarith
    exact (min_le_right _ _).trans (by linarith)
  · have least : (0 : Rat) ≤ grid * c := mul_nonneg wide.le (by exact_mod_cast more)
    have magnitude := le_abs_self ((grid : Rat) * c + rest + k * slack)
    exact (min_le_left _ _).trans (by linarith)

/-- A denominator that is far has no fraction as close as what the bound is for. -/
theorem lt_errorOver_of_isFar {error : Rat} (whole : value = n / d) (positive : 0 < d) (some : 0 < k)
    (nonneg : 0 ≤ error) (far : isFar (errorBound n d error) k (gridRest n d k) = true) :
    error < errorOver value k := by
  have times : (0 : Rat) < k := by exact_mod_cast some
  have rest := min_gridRest_le (n := n) positive k (round (value * k))
  have bound := errorBound_ge n d nonneg
  have more : ((k * errorBound n d error : Nat) : Rat) <
      (min (gridRest n d k) (grid - gridRest n d k) : Nat) := by
    exact_mod_cast of_decide_eq_true far
  rw [errorOver, abs_sub_div_eq value some, lt_div_iff₀ times]
  rw [← whole] at rest
  push_cast at more
  have wide := grid_pos
  have least : (k : Rat) * (error * grid + 2) ≤ k * errorBound n d error := mul_le_mul_of_nonneg_left bound times.le
  have total : (grid : Rat) * (error * k) < grid * |value * k - round (value * k)| := by
    push_cast at rest
    linarith
  exact lt_of_mul_lt_mul_left total wide.le

/-- Two fractions over one denominator that are both closer than half of what lies between two fractions are the
same. -/
theorem eq_of_abs_sub_lt {first second : Int} {error : Rat} (positive : 0 < k) (near : |value - first / k| ≤ error)
    (other : |value - second / k| ≤ error) (half : error * (2 * k) < 1) : first = second := by
  have times : (0 : Rat) < k := by exact_mod_cast positive
  rw [abs_sub_div_eq value positive, div_le_iff₀ times] at near other
  have between := abs_sub_le (first : Rat) (value * k) second
  rw [abs_sub_comm (first : Rat) (value * k)] at between
  have apart : |((first - second : Int) : Rat)| < 1 := by
    push_cast
    linarith
  rw [← sub_eq_zero, ← Int.abs_lt_one_iff]
  exact_mod_cast apart

/-- Over a multiple of the denominator of a fraction that is closer than half of what lies between two fractions, none
is closer. -/
theorem errorOver_le_of_repeats (some : 0 < k)
    (again : repeats (errorBound n d (errorOver value b)) b k = true) : errorOver value b ≤ errorOver value k := by
  obtain ⟨near, multiple⟩ : 2 * k * errorBound n d (errorOver value b) < grid ∧ k % b = 0 := by
    simpa [repeats] using again
  obtain ⟨count, rfl⟩ := Nat.dvd_of_mod_eq_zero multiple
  have half : errorOver value b * (2 * (b * count : Nat)) < 1 := by
    have bound := errorBound_ge n d (errorOver_nonneg value b)
    have small : (2 * (b * count : Nat) : Rat) * errorBound n d (errorOver value b) < grid := by exact_mod_cast near
    have wide := grid_pos
    have less : (2 * (b * count : Nat) : Rat) * (errorOver value b * grid) < 1 * grid := by nlinarith
    rw [← mul_assoc, mul_comm _ (errorOver value b)] at less
    exact lt_of_mul_lt_mul_right less wide.le
  have same : (round (value * b) : Rat) / b = (round (value * b) * count : Int) / (b * count : Nat) := by
    have factor : (count : Rat) ≠ 0 := by exact_mod_cast (Nat.pos_of_mul_pos_left some).ne'
    push_cast
    rw [mul_div_mul_right _ _ factor]
  by_contra closer
  have error : errorOver value b = |value - (round (value * b) * count : Int) / (b * count : Nat)| := by
    rw [← same, errorOver]
  have numerator := eq_of_abs_sub_lt some error.ge (not_le.mp closer).le half
  refine closer (le_of_eq ?_)
  rw [error, numerator]
  rfl

/-- The denominator that is aimed at is within the bound: the denominators of the convergents grow, and a fraction
between two of them is only taken below it. -/
theorem closeDenominator_spec {most left divisor before current : Nat} (shorter : divisor ≤ left)
    (first : before ≤ most) (second : current ≤ most) (positive : 0 < current) :
    let found := closeDenominator most left divisor before current
    0 < found ∧ found ≤ most := by
  fun_induction closeDenominator most left divisor before current with
  | case1 => exact ⟨positive, second⟩
  | case2 left divisor before current some next below ih =>
    have times : 0 < left / divisor := Nat.div_pos shorter (Nat.pos_of_ne_zero some)
    have grows : current ≤ next := (Nat.le_mul_of_pos_left current times).trans (Nat.le_add_right _ _)
    exact ih (Nat.mod_lt _ (Nat.pos_of_ne_zero some)).le second below (positive.trans_le grows)
  | case3 left divisor before current some next count above half =>
    have more : 0 < count := Nat.pos_of_ne_zero fun none => by simp [none] at half
    have whole : count * current ≤ most - before := Nat.div_mul_le_self _ current
    exact ⟨Nat.add_pos_left (Nat.mul_pos more positive) _, by omega⟩
  | case4 => exact ⟨positive, second⟩

/-- The state of the search before a denominator is looked at: a fraction that is the closest one over its denominator.
The denominators so far are no closer, and those before its own are farther, unless they are farther than what is aimed
at. -/
structure Searched (value aim : Rat) (count : Nat) (best : Approximation Rat) : Prop where
  positive : 0 < best.denominator
  below : best.denominator < count
  numerator : best.numerator = round (value * best.denominator)
  error : best.error = errorOver value best.denominator
  least : ∀ k, 0 < k → k < count → best.error ≤ errorOver value k ∨ aim < errorOver value k
  first : ∀ k, 0 < k → k < best.denominator → best.error < errorOver value k ∨ aim < errorOver value k

namespace Searched
variable {aim : Rat} {count : Nat} {best : Approximation Rat}

theorem skip (searched : Searched value aim count best)
    (loses : best.error ≤ errorOver value count ∨ aim < errorOver value count) :
    Searched value aim (count + 1) best where
  positive := searched.positive
  below := Nat.lt_succ_of_lt searched.below
  numerator := searched.numerator
  error := searched.error
  least k some less := by
    rcases Nat.lt_succ_iff_lt_or_eq.mp less with earlier | rfl
    · exact searched.least k some earlier
    · exact loses
  first := searched.first

theorem tried (searched : Searched value aim count best) :
    Searched value aim (count + 1) (tryDenominator value count best) := by
  rw [tryDenominator_eq]
  split
  · rename_i closer
    refine ⟨searched.positive.trans searched.below, Nat.lt_succ_self count, rfl, rfl, fun k some less => ?_,
      fun k some less => ?_⟩
    · rcases Nat.lt_succ_iff_lt_or_eq.mp less with earlier | rfl
      · exact (searched.least k some earlier).imp_left closer.le.trans
      · exact .inl (le_refl _)
    · exact (searched.least k some less).imp_left closer.trans_le
  · exact searched.skip (.inl (not_lt.mp ‹_›))

/-- What has no error at all cannot be improved on. -/
theorem stop (searched : Searched value aim count best) (none : ¬0 < best.error) (more : Nat) :
    Searched value aim (count + more) best where
  positive := searched.positive
  below := Nat.lt_add_right more searched.below
  numerator := searched.numerator
  error := searched.error
  least k _ _ := .inl ((not_lt.mp none).trans (errorOver_nonneg value k))
  first := searched.first

/-- The search goes through all denominators, as those that it leaves out cannot improve on the best fraction. -/
theorem improve (whole : value = n / d) (positive : 0 < d) (nonneg : 0 ≤ aim) (fuel : Nat)
    (searched : Searched value aim count best) :
    Searched value aim (count + fuel) (improve value n d (gridStep n d) (errorBound n d aim) fuel count
      (gridRest n d count) (errorBound n d best.error) best) := by
  induction fuel generalizing count best with
  | zero => exact searched
  | succ fuel ih =>
    have some : 0 < count := searched.positive.trans searched.below
    rw [Format.improve, nextRest_eq positive, ← Nat.add_assoc, Nat.add_right_comm]
    split
    · rename_i idle
      refine ih (searched.skip ?_)
      rcases Bool.or_eq_true_iff.mp idle with far | again
      · exact .inr (lt_errorOver_of_isFar whole positive some nonneg far)
      · rw [searched.error] at again ⊢
        exact .inl (errorOver_le_of_repeats some again)
    · dsimp only
      split
      · exact ih searched.tried
      · rename_i none
        exact searched.tried.stop (fun some => none (less_zero_iff.mpr some)) fuel

end Searched

/-- The closest fraction whose denominator is not above a bound. -/
structure IsClosest (value : Rat) (most : Nat) (p : Int) (q : Nat) : Prop where
  positive : 0 < q
  bounded : q ≤ most
  lowest : p.natAbs.Coprime q
  least : ∀ (a : Int) (b : Nat), 0 < b → b ≤ most → |value - p / q| ≤ |value - a / b|
  first : ∀ (a : Int) (b : Nat), 0 < b → b < q → |value - p / q| < |value - a / b|

/-- A fraction is the same in lowest terms. -/
theorem div_gcd_div_div_gcd (p : Int) {q : Nat} (positive : 0 < q) :
    ((p / (Nat.gcd p.natAbs q : Int) : Int) : Rat) / (q / Nat.gcd p.natAbs q : Nat) = p / q := by
  have divisor : (Nat.gcd p.natAbs q : Int) ∣ p := Int.natCast_dvd.mpr (Nat.gcd_dvd_left _ _)
  have factor : (Nat.gcd p.natAbs q : Rat) ≠ 0 := by exact_mod_cast (Nat.gcd_pos_of_pos_right _ positive).ne'
  rw [Int.cast_div divisor (by exact_mod_cast factor), Nat.cast_div (Nat.gcd_dvd_right _ _) factor, Int.cast_natCast]
  exact div_div_div_cancel_right₀ factor _ _

/-- After all denominators up to a bound the best fraction, in lowest terms, is the closest one: what is aimed at is the
distance of one of them. -/
theorem Searched.isClosest {aim : Rat} {most : Nat} {best : Approximation Rat}
    (searched : Searched value aim (most + 1) best) (aimed : ∃ b, 0 < b ∧ b ≤ most ∧ aim = errorOver value b)
    {p : Int} (numerator : p = round (value * best.denominator)) :
    IsClosest value most (p / (Nat.gcd p.natAbs best.denominator : Int))
      (best.denominator / Nat.gcd p.natAbs best.denominator) := by
  have positive := searched.positive
  have divisor : 0 < Nat.gcd p.natAbs best.denominator := Nat.gcd_pos_of_pos_right _ positive
  have reduced := div_gcd_div_div_gcd p positive
  have error : |value - p / best.denominator| = best.error := by rw [searched.error, numerator, errorOver]
  have near : best.error ≤ aim := by
    obtain ⟨b, some, few, rfl⟩ := aimed
    exact (searched.least b some (Nat.lt_succ_of_le few)).resolve_right (lt_irrefl _)
  refine ⟨Nat.div_pos (Nat.gcd_le_right _ positive) divisor, ?_, ?_, fun a b some few => ?_, fun a b some less => ?_⟩
  · exact (Nat.div_le_self _ _).trans (Nat.le_of_lt_succ searched.below)
  · rw [Int.natAbs_ediv_of_dvd (Int.natCast_dvd.mpr (Nat.gcd_dvd_left _ _)), Int.natAbs_natCast]
    exact Nat.coprime_div_gcd_div_gcd divisor
  · rw [reduced, error]
    refine le_trans ?_ (errorOver_le value some a)
    rcases searched.least b some (Nat.lt_succ_of_le few) with close | far
    · exact close
    · exact near.trans far.le
  · rw [reduced, error]
    refine lt_of_lt_of_le ?_ (errorOver_le value some a)
    rcases searched.first b some (less.trans_le (Nat.div_le_self _ _)) with close | far
    · exact close
    · exact near.trans_lt far

/-- The fraction that the search begins with. -/
def wholeFraction (value : Rat) : Approximation Rat := ⟨round value, 1, errorOver value 1⟩

/-- The fraction that the search aims at. -/
def aimedFraction (value : Rat) (most : Nat) : Approximation Rat :=
  tryDenominator value (closeDenominator most value.den (value.num.natAbs % value.den) 0 1) (wholeFraction value)

/-- The fraction that the search ends with. -/
def foundFraction (value : Rat) (most : Nat) : Approximation Rat :=
  let step := gridStep value.num.natAbs value.den
  let bound (error : Rat) := errorBound value.num.natAbs value.den error
  if 0 < errorOver value 1 then
    improve value value.num.natAbs value.den step (bound (aimedFraction value most).error) (most - 1) 2
      (nextRest step step) (bound (errorOver value 1)) (wholeFraction value)
  else wholeFraction value

theorem errorOver_one (value : Rat) : errorOver value 1 = |value - round value| := by
  rw [errorOver, Nat.cast_one, mul_one, div_one]

theorem closestFraction?_eq (value : Rat) (most : Nat) : closestFraction? value most =
    (Scalar.whole? (foundFraction value most).numerator).map fun p =>
      (p / (Nat.gcd p.natAbs (foundFraction value most).denominator : Int),
        (foundFraction value most).denominator / Nat.gcd p.natAbs (foundFraction value most).denominator) := by
  have begins : (⟨Scalar.nearest value, 1, Scalar.magnitude (value - Scalar.nearest value)⟩ : Approximation Rat) =
      wholeFraction value := by
    rw [Scalar.nearest_eq, Scalar.magnitude_eq, wholeFraction, errorOver_one]
  have found : foundFraction value most =
      if Scalar.less (Scalar.ofInt 0) (wholeFraction value).error = true then
        improve value value.num.natAbs value.den (gridStep value.num.natAbs value.den)
          (errorBound value.num.natAbs value.den (aimedFraction value most).error) (most - 1) 2
          (nextRest (gridStep value.num.natAbs value.den) (gridStep value.num.natAbs value.den))
          (errorBound value.num.natAbs value.den (wholeFraction value).error) (wholeFraction value)
      else wholeFraction value := by
    simp only [less_zero_iff]
    rfl
  rw [found]
  unfold aimedFraction
  rw [← begins]
  unfold closestFraction?
  rw [Option.map_eq_bind]
  rfl

theorem searched_wholeFraction (value aim : Rat) : Searched value aim 2 (wholeFraction value) where
  positive := Nat.one_pos
  below := Nat.one_lt_two
  numerator := by simp [wholeFraction]
  error := rfl
  least k some less := by
    obtain rfl : k = 1 := by omega
    exact .inl (le_refl _)
  first k some less := absurd less (by simp only [wholeFraction]; omega)

/-- What is aimed at is the distance over a denominator that is within the bound. -/
theorem exists_aim (value : Rat) {most : Nat} (some : 0 < most) :
    ∃ b, 0 < b ∧ b ≤ most ∧ (aimedFraction value most).error = errorOver value b := by
  obtain ⟨positive, bounded⟩ := closeDenominator_spec (Nat.mod_lt value.num.natAbs value.den_pos).le
    (Nat.zero_le most) some Nat.one_pos
  rw [aimedFraction, tryDenominator_eq]
  split
  · exact ⟨_, positive, bounded, rfl⟩
  · exact ⟨1, Nat.one_pos, some, rfl⟩

theorem searched_foundFraction (nonneg : 0 ≤ value) {most : Nat} (some : 0 < most) :
    Searched value (aimedFraction value most).error (most + 1) (foundFraction value most) := by
  have start := searched_wholeFraction value (aimedFraction value most).error
  have count : 2 + (most - 1) = most + 1 := by omega
  unfold foundFraction
  dsimp only
  split
  · obtain ⟨b, -, -, aimed⟩ := exists_aim value some
    have run := start.improve (Scalar.natAbs_num_div_den nonneg).symm value.den_pos (aimed ▸ errorOver_nonneg value b)
      (most - 1)
    have second := nextRest_eq (n := value.num.natAbs) value.den_pos 1
    rw [gridRest_one value.den_pos] at second
    rw [count, ← second] at run
    exact run
  · rename_i none
    exact count ▸ start.stop none (most - 1)

theorem exists_closestFraction? (nonneg : 0 ≤ value) {most : Nat} (some : 0 < most) :
    ∃ p q, closestFraction? value most = Option.some (p, q) ∧ IsClosest value most p q := by
  have searched := searched_foundFraction nonneg some
  have numerator : Scalar.whole? (foundFraction value most).numerator =
      Option.some (round (value * (foundFraction value most).denominator)) := by
    rw [searched.numerator]
    rfl
  refine ⟨_, _, ?_, searched.isClosest (exists_aim value some) rfl⟩
  rw [closestFraction?_eq, numerator, Option.map_some]

end Spreadsheet.Format
