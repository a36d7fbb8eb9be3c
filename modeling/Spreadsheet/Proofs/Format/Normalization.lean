import Mathlib.Tactic.FieldSimp
import Mathlib.Tactic.Linarith
import Spreadsheet.Format.Scientific
import Spreadsheet.Locale.Table
import Spreadsheet.Proofs.Number.Exact

/-! Scientific notation in exact arithmetic. The mantissa that prints has its digits before the point, whether or not
rounding took it up to the next power of ten. -/
namespace Spreadsheet.Format
attribute [local instance (high)] instPowNat

/-- How many digits stand before the point. -/
def DigitPattern.leading (pattern : DigitPattern) : Nat := max 1 (placeholders pattern.integer).length

/-- Engineering notation: one of several placeholders before the point is `#`. -/
def DigitPattern.IsEngineering (pattern : DigitPattern) : Prop := 1 < pattern.leading ∧ '#' ∈ pattern.integer

section normalizing
variable {x mantissa : Rat} {size exponent : Int} {digits step places units : Nat}

theorem le_round {a : Int} (close : a - 1 / 2 ≤ x) : a ≤ round x := by
  rw [round_eq, Int.le_floor]
  linarith

theorem round_le_of_lt {a : Int} (less : x < a) : round x ≤ a := by
  rw [round_eq, ← Int.lt_add_one_iff, Int.floor_lt]
  push_cast
  linarith

/-- An exact logarithm needs no correction. -/
theorem leadingExponent_eq (low : 10 ^ size ≤ x) (high : x < 10 ^ (size + 1)) : leadingExponent x size = size := by
  have some : (0 : Rat) < 10 ^ size := by positivity
  have below : ¬Scalar.atLeast (x / Scalar.powerOfTen size) (Scalar.ofInt 10 : Rat) = true := by
    rw [Scalar.atLeast_iff, Scalar.powerOfTen_eq, not_le, div_lt_iff₀ some]
    change x < ((10 : Int) : Rat) * 10 ^ size
    rwa [Int.cast_ofNat, mul_comm, ← zpow_add_one₀ (by norm_num)]
  have above : ¬Scalar.less (x / Scalar.powerOfTen size) (Scalar.ofInt 1 : Rat) = true := by
    rw [Scalar.less_iff, Scalar.powerOfTen_eq, not_lt, le_div_iff₀ some]
    change ((1 : Int) : Rat) * 10 ^ size ≤ x
    rwa [Int.cast_one, one_mul]
  rw [leadingExponent, if_neg below, if_neg above]

/-- A mantissa and an exponent for a value, the mantissa with as many digits before the point as there are places, or in
steps of several digits with one at least, after it is rounded to units of its last decimal. -/
structure Normalized (x : Rat) (digits step places : Nat) (mantissa : Rat) (exponent : Int) (units : Nat) : Prop where
  value : mantissa * 10 ^ exponent = x
  multiple : (step : Int) ∣ exponent
  rounded : (units : Int) = round (mantissa * 10 ^ places)
  least : 10 ^ (digits - step + places) ≤ units
  below : units < 10 ^ (digits + places)

/-- A mantissa that is rounded up to a digit more stands at the first power of ten after a step. -/
theorem Normalized.ofCarry (some : 0 < step) (few : step ≤ digits) (value : mantissa * 10 ^ exponent = x)
    (multiple : (step : Int) ∣ exponent) (less : mantissa < 10 ^ digits)
    (reached : (10 ^ (digits + places) : Nat) ≤ round (mantissa * 10 ^ places)) :
    Normalized x digits step places (x / 10 ^ (exponent + step)) (exponent + step) (10 ^ (digits - step + places)) := by
  have scale : (0 : Rat) < 10 ^ step := by positivity
  have moved : x / 10 ^ (exponent + step) = mantissa / 10 ^ step := by
    have ten : (10 : Rat) ≠ 0 := by norm_num
    rw [← value, zpow_add₀ ten, zpow_natCast, mul_comm ((10 : Rat) ^ exponent),
      mul_div_mul_right _ _ (zpow_ne_zero _ ten)]
  have power : (10 : Rat) ^ (digits + places) = 10 ^ (digits - step + places) * 10 ^ step := by
    rw [← pow_add]
    congr 1
    omega
  refine ⟨div_mul_cancel₀ _ (by positivity), (Int.dvd_add_right multiple).mpr (Int.dvd_refl _), ?_, le_refl _,
    Nat.pow_lt_pow_right (by decide) (by omega)⟩
  have high : mantissa * 10 ^ places < 10 ^ (digits + places) := by
    rw [pow_add]
    exact mul_lt_mul_of_pos_right less (by positivity)
  have low : (10 : Rat) ^ (digits + places) - 1 / 2 ≤ mantissa * 10 ^ places := by
    rw [round_eq, Int.le_floor] at reached
    push_cast at reached
    linarith
  have one : (1 : Rat) ≤ 10 ^ step := one_le_pow₀ (by norm_num)
  -- Half a unit below the power of ten is less than half a unit after the step.
  rw [moved, div_mul_eq_mul_div]
  refine le_antisymm (le_round ?_) (round_le_of_lt ?_)
  · rw [le_div_iff₀ scale]
    push_cast
    nlinarith
  · rw [div_lt_iff₀ scale]
    push_cast
    rwa [← power]

/-- The exponent that is tried leaves as many digits before the point as there are places, or in steps of several digits
one at least. -/
theorem exponent_spec (size : Int) (some : 0 < digits) (kind : step = 1 ∨ step = digits) :
    let exponent := if (step != 1) = true then size / step * step else size - (digits - 1 : Nat)
    (step : Int) ∣ exponent ∧ exponent + (digits - step : Nat) ≤ size ∧ size + 1 ≤ exponent + digits := by
  intro exponent
  by_cases one : step = 1
  · subst one
    change ((1 : Nat) : Int) ∣ size - (digits - 1 : Nat) ∧ size - (digits - 1 : Nat) + (digits - 1 : Nat) ≤ size ∧
      size + 1 ≤ size - (digits - 1 : Nat) + digits
    exact ⟨Int.one_dvd _, by omega, by omega⟩
  · obtain rfl : step = digits := kind.resolve_left one
    have division := Int.ediv_mul_add_emod size step
    have rest := Int.emod_nonneg size (b := step) (by omega)
    have bound := Int.emod_lt_of_pos size (b := step) (by omega)
    simp only [exponent, bne_iff_ne, ne_eq, one, not_false_eq_true, if_true]
    exact ⟨Int.dvd_mul_left _ _, by omega, by omega⟩

/-- A positive value has a mantissa and an exponent that are normalized. -/
theorem exists_normalize? {pattern : DigitPattern} (low : 10 ^ size ≤ x) (high : x < 10 ^ (size + 1))
    (layout : scientificLayout pattern = (digits, step)) (some : 0 < digits) (kind : step = 1 ∨ step = digits) :
    ∃ mantissa exponent units, normalize? x size pattern = Option.some (mantissa, exponent) ∧
      Normalized x digits step pattern.decimals.length mantissa exponent units := by
  generalize length : pattern.decimals.length = places
  have ten : (10 : Rat) ≠ 0 := by norm_num
  obtain ⟨multiple, starts, ends⟩ := exponent_spec size some kind
  have logarithm := leadingExponent_eq low high
  have limit : (Scalar.powerOfTen (if (step != 1) = true then (step : Int) else digits) : Rat) = 10 ^ digits := by
    rw [Scalar.powerOfTen_eq, ← zpow_natCast]
    rcases kind with rfl | rfl <;> simp
  unfold normalize?
  simp only [layout, logarithm, length, Scalar.powerOfTen_eq, limit]
  generalize (if (step != 1) = true then size / step * step else size - (digits - 1 : Nat)) = exponent at *
  have scale : (0 : Rat) < 10 ^ exponent := by positivity
  have least : (10 : Rat) ^ (digits - step) ≤ x / 10 ^ exponent := by
    rw [le_div_iff₀ scale, ← zpow_natCast, ← zpow_add₀ ten, add_comm]
    exact (zpow_le_zpow_right₀ (by norm_num) starts).trans low
  have less : x / 10 ^ exponent < 10 ^ digits := by
    rw [div_lt_iff₀ scale, ← zpow_natCast, ← zpow_add₀ ten, add_comm]
    exact high.trans_le (zpow_le_zpow_right₀ (by norm_num) ends)
  have value : x / 10 ^ exponent * 10 ^ exponent = x := div_mul_cancel₀ _ scale.ne'
  generalize x / (10 : Rat) ^ exponent = mantissa at *
  have nonneg : 0 ≤ mantissa := (pow_nonneg (by norm_num) _).trans least
  obtain ⟨units, rounded, fixed⟩ := Scalar.exists_fixed? nonneg places
  have carries : Scalar.atLeast (Scalar.ofText (Number.withPlaces places units)) (10 ^ digits : Rat) = true ↔
      10 ^ (digits + places) ≤ units := by
    rw [Scalar.atLeast_iff, Scalar.ofText_withPlaces, le_div_iff₀ (by positivity), ← pow_add]
    exact_mod_cast Iff.rfl
  simp only [fixed, Option.bind_eq_bind, Option.bind_some]
  by_cases carried : 10 ^ (digits + places) ≤ units
  · rw [if_pos (carries.mpr carried)]
    have few : step ≤ digits := by omega
    exact ⟨_, _, _, rfl, .ofCarry (by omega) few value multiple less (rounded ▸ by exact_mod_cast carried)⟩
  · rw [if_neg (carries.not.mpr carried)]
    refine ⟨_, _, units, rfl, value, multiple, rounded, ?_, not_le.mp carried⟩
    have most : (10 ^ (digits - step + places) : Int) ≤ round (mantissa * 10 ^ places) := by
      refine le_round ?_
      push_cast
      rw [pow_add]
      linarith [mul_le_mul_of_nonneg_right least (by positivity : (0 : Rat) ≤ 10 ^ places)]
    rw [← rounded] at most
    exact_mod_cast most

end normalizing

/-- A whole part and decimals in their places. -/
def DigitPattern.mantissaText (pattern : DigitPattern) (locale : Locale) (whole : Nat) (decimals : List Char) :
    List Char :=
  fillInteger (Text.numeral whole) pattern.integer none ++
    if pattern.hasPoint then locale.decimal.toList ++ fillDecimals decimals pattern.decimals else []

/-- An exponent after its letter, with its sign and its least count of digits. -/
def ExponentPattern.text (pattern : ExponentPattern) (exponent : Int) : List Char :=
  (if pattern.upper then 'E' else 'e') ::
    (if exponent < 0 then ['-'] else if pattern.alwaysSign then ['+'] else []) ++
    Text.padLeft pattern.digits '0' (Text.numeral exponent.natAbs)

variable {x mantissa : Rat} {exponent : Int} {digits step units : Nat} {pattern : DigitPattern}

theorem Normalized.fixedText? (normalized : Normalized x digits step pattern.decimals.length mantissa exponent units)
    (nonneg : 0 ≤ mantissa) (locale : Locale) : ∃ (whole : Nat) (decimals : List Char),
      decimals.length = pattern.decimals.length ∧ (∀ c ∈ decimals, c.isDigit = true) ∧
      10 ^ pattern.decimals.length * whole + Text.digitsValue decimals = units ∧
      Format.fixedText? mantissa { pattern with grouping := false } locale =
        some (pattern.mantissaText locale whole decimals) := by
  obtain ⟨count, rounded, fixed⟩ := Scalar.exists_fixed? nonneg pattern.decimals.length
  obtain rfl : count = units := by exact_mod_cast rounded.trans normalized.rounded.symm
  obtain ⟨decimals, length, digital, value, text⟩ := Number.exists_withPlaces pattern.decimals.length count
  refine ⟨_, decimals, length, digital, value, ?_⟩
  have some : 0 < count / 10 ^ pattern.decimals.length := by
    refine Nat.div_pos (le_trans ?_ normalized.least) (Nat.pow_pos (by decide))
    exact Nat.pow_le_pow_right (by decide) (Nat.le_add_left _ _)
  have visible : Text.numeral (count / 10 ^ pattern.decimals.length) ≠ ['0'] := by
    intro zero
    have none := Text.digitsValue_numeral (count / 10 ^ pattern.decimals.length)
    rw [zero] at none
    exact some.ne none
  have plain : ∀ c ∈ Text.numeral (count / 10 ^ pattern.decimals.length), (c != '.') = true := by
    intro c member
    rw [bne_iff_ne]
    rintro rfl
    exact absurd (Text.isDigit_of_mem_numeral member) (by decide)
  have whole : (Number.withPlaces pattern.decimals.length count).takeWhile (· != '.') =
      Text.numeral (count / 10 ^ pattern.decimals.length) := by
    rw [text, List.takeWhile_append_of_pos plain]
    split <;> simp
  have rest : ((Number.withPlaces pattern.decimals.length count).drop
      (Text.numeral (count / 10 ^ pattern.decimals.length)).length).drop 1 = decimals := by
    rw [text, List.drop_left]
    split
    · rename_i none
      exact (List.length_eq_zero_iff.mp (length.trans none)).symm
    · rfl
  unfold Format.fixedText?
  simp only [fixed, Option.map_some, whole, rest, if_neg visible, Bool.false_eq_true, if_false]
  rfl

theorem scientificLayout_eq (pattern : DigitPattern) : ∃ step, scientificLayout pattern = (pattern.leading, step) ∧
    (pattern.IsEngineering → step = pattern.leading) ∧ (¬pattern.IsEngineering → step = 1) := by
  refine ⟨_, rfl, fun engineering => if_pos ?_, fun plain => if_neg ?_⟩
  · simpa [DigitPattern.IsEngineering, DigitPattern.leading] using engineering
  · simpa [DigitPattern.IsEngineering, DigitPattern.leading] using plain

/-- A positive value in scientific notation: what prints are the whole part and the decimals of a mantissa, which has
as many digits before the point as there are placeholders, and an exponent. In engineering notation the mantissa has one
digit at least, and the exponent is a multiple of the count of placeholders. Both together are the value, rounded to the
last decimal. -/
theorem scientificText_normalized (positive : 0 < x) (pattern : DigitPattern) (exponentPattern : ExponentPattern)
    (locale : Locale) : ∃ (whole : Nat) (decimals : List Char) (exponent : Int),
      decimals.length = pattern.decimals.length ∧ (∀ c ∈ decimals, c.isDigit = true) ∧
      scientificText? x pattern exponentPattern locale =
        some (pattern.mantissaText locale whole decimals ++ exponentPattern.text exponent) ∧
      let mantissa : Rat := whole + Text.digitsValue decimals / 10 ^ pattern.decimals.length
      mantissa < 10 ^ pattern.leading ∧
      (¬pattern.IsEngineering → 10 ^ (pattern.leading - 1) ≤ mantissa) ∧
      (pattern.IsEngineering → 1 ≤ mantissa ∧ (pattern.leading : Int) ∣ exponent) ∧
      |mantissa * 10 ^ exponent - x| ≤ 10 ^ (exponent - pattern.decimals.length) / 2 := by
  have scale (power : Int) : (0 : Rat) < 10 ^ power := by positivity
  have places : (0 : Rat) < 10 ^ pattern.decimals.length := by positivity
  obtain ⟨step, layout, engineering, plain⟩ := scientificLayout_eq pattern
  have some : 0 < pattern.leading := Nat.lt_of_lt_of_le Nat.one_pos (Nat.le_max_left _ _)
  have kind : step = 1 ∨ step = pattern.leading := by tauto
  obtain ⟨size, logarithm, low, high⟩ := Scalar.exists_floorLog10? positive
  obtain ⟨mantissa, exponent, units, normal, normalized⟩ := exists_normalize? low high layout some kind
  have nonneg : 0 < mantissa := (mul_pos_iff_of_pos_right (scale exponent)).mp (normalized.value ▸ positive)
  obtain ⟨whole, decimals, length, digital, sum, text⟩ := normalized.fixedText? nonneg.le locale
  have printed : (whole + Text.digitsValue decimals / 10 ^ pattern.decimals.length : Rat) =
      units / 10 ^ pattern.decimals.length := by
    rw [← sum]
    push_cast
    rw [add_div, mul_div_cancel_left₀ _ places.ne']
  have different : Scalar.same x (Scalar.ofInt 0) = false := by
    change (x == ((0 : Int) : Rat)) = false
    rw [beq_eq_false_iff_ne, Int.cast_zero]
    exact positive.ne'
  refine ⟨whole, decimals, exponent, length, digital, ?_, ?_⟩
  · unfold scientificText?
    simp only [different, Bool.false_eq_true, if_false, logarithm, normal, Option.map_some, Option.bind_eq_bind,
      Option.bind_some, text, decide_eq_true_eq]
    rw [ExponentPattern.text, ← List.append_assoc]
    rfl
  · dsimp only
    rw [printed]
    refine ⟨?_, fun alone => ?_, fun several => ⟨?_, engineering several ▸ normalized.multiple⟩, ?_⟩
    · rw [div_lt_iff₀ places, ← pow_add]
      exact_mod_cast normalized.below
    · have least := normalized.least
      rw [plain alone] at least
      rw [le_div_iff₀ places, ← pow_add]
      exact_mod_cast least
    · have least := normalized.least
      rw [engineering several, Nat.sub_self, Nat.zero_add] at least
      rw [le_div_iff₀ places, one_mul]
      exact_mod_cast least
    · have rounded : (units : Rat) = round (mantissa * 10 ^ pattern.decimals.length) := by
        exact_mod_cast normalized.rounded
      have close := abs_sub_round (mantissa * 10 ^ pattern.decimals.length)
      rw [← rounded, abs_sub_comm] at close
      have unit : (10 : Rat) ^ (exponent - pattern.decimals.length) = 10 ^ exponent / 10 ^ pattern.decimals.length := by
        rw [zpow_sub₀ (by norm_num), zpow_natCast]
      have error : units / 10 ^ pattern.decimals.length * 10 ^ exponent - x =
          (units - mantissa * 10 ^ pattern.decimals.length) * 10 ^ (exponent - pattern.decimals.length) := by
        rw [← normalized.value, unit]
        field_simp
      rw [error, abs_mul, abs_of_pos (scale _), div_eq_inv_mul, ← one_div]
      exact mul_le_mul_of_nonneg_right close (scale _).le

/-- A mantissa that rounding takes up to a thousand moves the exponent by a step of three. -/
theorem scientificText_normalized_carried :
    let pattern := DigitPattern.parse "##0.0E+0".toList
    ((0 : Rat) < 99996 / 100 ∧ pattern.leading = 3 ∧ pattern.IsEngineering ∧
      scientificText? (99996 / 100 : Rat) pattern ⟨true, true, 1⟩ .enUs = some "1.0E+3".toList) ∧
    ∃ (whole : Nat) (decimals : List Char) (exponent : Int), decimals.length = 1 ∧
      "1.0E+3".toList = pattern.mantissaText .enUs whole decimals ++ ExponentPattern.text ⟨true, true, 1⟩ exponent ∧
      1 ≤ (whole + Text.digitsValue decimals / 10 ^ 1 : Rat) ∧ 3 ∣ exponent := by
  intro pattern
  have positive : (0 : Rat) < 99996 / 100 := by decide +kernel
  have leading : pattern.leading = 3 := by decide +kernel
  have engineering : pattern.IsEngineering := ⟨by decide +kernel, by decide +kernel⟩
  have places : pattern.decimals.length = 1 := by decide +kernel
  have shows : scientificText? (99996 / 100 : Rat) pattern ⟨true, true, 1⟩ .enUs = some "1.0E+3".toList := by
    decide +kernel
  obtain ⟨whole, decimals, exponent, length, -, text, -, -, normal, -⟩ :=
    scientificText_normalized positive pattern ⟨true, true, 1⟩ .enUs
  rw [shows, Option.some.injEq] at text
  have bounds := normal engineering
  rw [leading, places] at bounds
  exact ⟨⟨positive, leading, engineering, shows⟩, whole, decimals, exponent, length.trans places, text, bounds⟩

end Spreadsheet.Format
