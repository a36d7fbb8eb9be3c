import Mathlib.Algebra.Order.Round
import Mathlib.Data.Rat.Floor
import Spreadsheet.Number.Scalar
import Spreadsheet.Proofs.Number.Texts

/-! Exact arithmetic. The decimal logarithm is the exponent of the power of ten below a value, and a text with a fixed
count of decimals is the value rounded to them. -/
namespace Spreadsheet
attribute [local instance (high)] instPowNat

/-- A number lies between the powers of ten that its digits count. -/
theorem Text.ten_pow_length_numeral {value : Nat} (positive : 0 < value) :
    10 ^ ((numeral value).length - 1) ≤ value ∧ value < 10 ^ (numeral value).length := by
  have some : 0 < (numeral value).length := Nat.length_toDigits_pos
  refine ⟨?_, (Nat.length_toDigits_le_iff (by decide) some).mp (le_refl _)⟩
  rcases Nat.eq_zero_or_pos ((numeral value).length - 1) with none | more
  · rwa [none]
  · rw [← Nat.not_lt, ← Nat.length_toDigits_le_iff (by decide) more, Nat.not_le]
    exact Nat.sub_lt some Nat.one_pos

/-- A count of units of the last place is the numeral of the whole part and as many decimals as there are places. -/
theorem Number.exists_withPlaces (places value : Nat) : ∃ decimals : List Char,
    decimals.length = places ∧ (∀ c ∈ decimals, c.isDigit = true) ∧
    10 ^ places * (value / 10 ^ places) + Text.digitsValue decimals = value ∧
    withPlaces places value = Text.numeral (value / 10 ^ places) ++ if places = 0 then [] else '.' :: decimals := by
  rcases Nat.eq_zero_or_pos places with rfl | positive
  · have some : 0 < (Text.numeral value).length := Nat.length_toDigits_pos
    refine ⟨[], rfl, by simp, by simp [Text.digitsValue], ?_⟩
    rw [withPlaces, if_pos rfl, if_pos rfl, Text.padLeft, Nat.pow_zero, Nat.div_one, List.append_nil,
      show 0 + 1 - (Text.numeral value).length = 0 by omega]
    rfl
  have short : value % 10 ^ places < 10 ^ places := Nat.mod_lt _ (Nat.pow_pos (by decide))
  have length := Text.length_padLeft_numeral positive short
  have rest := Text.digitsValue_padLeft places (value % 10 ^ places)
  refine ⟨_, length, fun c => Text.isDigit_of_mem_padLeft, by rw [rest, Nat.div_add_mod], ?_⟩
  have digits : Text.padLeft (places + 1) '0' (Text.numeral value) =
      Text.numeral (value / 10 ^ places) ++ Text.padLeft places '0' (Text.numeral (value % 10 ^ places)) := by
    rcases Nat.eq_zero_or_pos (value / 10 ^ places) with none | some
    · have less : value < 10 ^ places := (Nat.div_eq_zero_iff_lt (Nat.pow_pos (by decide))).mp none
      have few := (Nat.length_toDigits_le_iff (by decide) positive).mpr less
      change (Text.numeral value).length ≤ places at few
      rw [none, Nat.mod_eq_of_lt less, Text.padLeft, Text.padLeft, Nat.succ_sub few, List.replicate_succ]
      rfl
    · have decimal : ∀ c ∈ Text.padLeft places '0' (Text.numeral (value % 10 ^ places)), c.isDigit = true :=
        fun c => Text.isDigit_of_mem_padLeft
      have parts := Text.numeral_ofDigitChars decimal some
      rw [Nat.ofDigitChars_eq_ofDigitChars_zero, length, ← Text.digitsValue, rest, Nat.div_add_mod] at parts
      have first := List.length_pos_iff.mpr (Text.numeral_ne_nil (value / 10 ^ places))
      rw [parts, Text.padLeft, List.length_append, length,
        show places + 1 - ((Text.numeral (value / 10 ^ places)).length + places) = 0 by omega]
      rfl
  simp only [withPlaces, digits, if_neg positive.ne', List.length_append, length, Nat.add_sub_cancel, List.take_left',
    List.drop_left']

namespace Scalar

theorem nearest_eq (x : Rat) : nearest x = (round x : Rat) := by
  rw [round_eq]
  rfl

theorem magnitude_eq (x : Rat) : magnitude x = |x| := by
  change (if x < 0 then -x else x) = |x|
  split
  · rw [abs_of_neg ‹_›]
  · rw [abs_of_nonneg (not_lt.mp ‹_›)]

theorem powerOfTen_eq (k : Int) : (powerOfTen k : Rat) = 10 ^ k :=
  (Number.zpow_eq_div 10 (by decide) k).symm

theorem atLeast_iff {x y : Rat} : atLeast x y = true ↔ y ≤ x := by
  change (decide (y < x) || x == y) = true ↔ _
  rw [Bool.or_eq_true, decide_eq_true_iff, beq_iff_eq, le_iff_lt_or_eq, eq_comm]

theorem less_iff {x y : Rat} : less x y = true ↔ x < y := decide_eq_true_iff

theorem natAbs_num_div_den {x : Rat} (nonneg : 0 ≤ x) : (x.num.natAbs : Rat) / x.den = x := by
  rw [Nat.cast_natAbs, abs_of_nonneg (Rat.num_nonneg.mpr nonneg), Rat.num_div_den]

/-- The exact logarithm of a fraction. -/
theorem exactLog10_spec {n d : Nat} (some : 0 < n) (positive : 0 < d) :
    (10 : Rat) ^ exactLog10 n d ≤ n / d ∧ (n / d : Rat) < 10 ^ (exactLog10 n d + 1) := by
  have below : (0 : Rat) < d := by exact_mod_cast positive
  rw [le_div_iff₀ below, div_lt_iff₀ below]
  unfold exactLog10
  split
  · rename_i more
    obtain ⟨low, high⟩ := Text.ten_pow_length_numeral (Nat.div_pos more positive)
    have first : 0 < (Text.numeral (n / d)).length := Nat.length_toDigits_pos
    generalize (Text.numeral (n / d)).length = length at *
    rw [Nat.le_div_iff_mul_le positive] at low
    rw [Nat.div_lt_iff_lt_mul positive] at high
    rw [sub_add_cancel, show (length : Int) - 1 = (length - 1 : Nat) by omega, zpow_natCast, zpow_natCast]
    exact ⟨by exact_mod_cast low, by exact_mod_cast high⟩
  · rename_i less
    obtain ⟨low, high⟩ := Text.ten_pow_length_numeral (Nat.div_pos (show n ≤ d - 1 by omega) some)
    have first : 0 < (Text.numeral ((d - 1) / n)).length := Nat.length_toDigits_pos
    generalize (Text.numeral ((d - 1) / n)).length = length at *
    rw [Nat.le_div_iff_mul_le some] at low
    rw [Nat.div_lt_iff_lt_mul some] at high
    rw [show -(length : Int) + 1 = -(length - 1 : Nat) by omega, zpow_neg, zpow_neg, zpow_natCast, zpow_natCast,
      inv_mul_le_iff₀ (by positivity), lt_inv_mul_iff₀ (by positivity)]
    exact ⟨by exact_mod_cast (show d ≤ 10 ^ length * n by omega),
      by exact_mod_cast (show 10 ^ (length - 1) * n < d by omega)⟩

theorem exists_floorLog10? {x : Rat} (positive : 0 < x) :
    ∃ size : Int, floorLog10? x = some size ∧ 10 ^ size ≤ x ∧ x < 10 ^ (size + 1) := by
  have bounds := exactLog10_spec (Int.natAbs_pos.mpr (Rat.num_pos.mpr positive).ne') x.den_pos
  rw [natAbs_num_div_den positive.le] at bounds
  exact ⟨_, if_pos positive, bounds⟩

/-- A value is rounded to its decimals. -/
theorem exists_fixed? {x : Rat} (nonneg : 0 ≤ x) (places : Nat) : ∃ units : Nat,
    (units : Int) = round (x * 10 ^ places) ∧ fixed? places x = some (Number.withPlaces places units) := by
  have least : 0 ≤ round (x * 10 ^ places) := by
    rw [round_eq, Int.floor_nonneg]
    positivity
  refine ⟨(round (x * 10 ^ places)).toNat, Int.toNat_of_nonneg least, ?_⟩
  rw [round_eq, ← Nat.cast_ofNat, ← Nat.cast_pow]
  rfl

/-- What has a fixed count of decimals reads back as it was rounded. -/
theorem ofText_withPlaces (places units : Nat) :
    (ofText (Number.withPlaces places units) : Rat) = units / 10 ^ places := by
  obtain ⟨decimals, rfl, digital, value, text⟩ := Number.exists_withPlaces places units
  have all : Text.allDigits (Text.numeral (units / 10 ^ decimals.length) ++ decimals) = true :=
    Text.allDigits_iff.mpr ⟨List.append_ne_nil_of_left_ne_nil (Text.numeral_ne_nil _) _,
      List.forall_mem_append.mpr ⟨fun c => Text.isDigit_of_mem_numeral, digital⟩⟩
  have spelled : DecimalNumeral.Spells (Number.withPlaces decimals.length units)
      ⟨Text.numeral (units / 10 ^ decimals.length) ++ decimals, decimals.length, 0⟩ := by
    rw [text]
    by_cases none : decimals = []
    · subst none
      rw [List.length_nil, if_pos rfl]
      simpa using DecimalNumeral.Spells.whole all .none
    · rw [if_neg (mt List.length_eq_zero_iff.mp none)]
      simpa using DecimalNumeral.Spells.point all .none
  have sum : Text.digitsValue (Text.numeral (units / 10 ^ decimals.length) ++ decimals) = units := by
    rw [Text.digitsValue, Nat.ofDigitChars_append, Nat.ofDigitChars_eq_ofDigitChars_zero]
    exact (congrArg (10 ^ decimals.length * · + _) (Text.digitsValue_numeral _)).trans value
  change ((DecimalNumeral.read? (Number.withPlaces decimals.length units)).map decimalRat).getD 0 = _
  rw [DecimalNumeral.read?_of_spells spelled, Option.map_some, Option.getD_some, decimalRat, sum]
  simp

end Scalar
end Spreadsheet
