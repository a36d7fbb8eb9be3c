import Spreadsheet.Proofs.Number.Decimals
import Spreadsheet.Proofs.Number.Differences

/-! Whole numbers that need not be small. What is reckoned from whole numbers is whole, however it is rounded, and below
`10 ^ 21` it is written as a plain numeral: seventeen digits are enough to tell it from its neighbours, and zeros follow. -/
namespace Spreadsheet.Number
attribute [local instance (high)] instPowNat
variable {x y : Number} {s k size : Nat}

/-- A number is whole if it is finite. -/
def Integral (x : Number) : Prop := x.isFinite = true → ∃ k, x.toInt? = some k

theorem exists_units_of_isFinite (finite : x.isFinite = true) : ∃ units, x.units? = some units := by
  cases x with
  | nan => cases finite
  | infinite negative => cases finite
  | finite negative s e canonical => exact ⟨_, rfl⟩

/-- A finite number whose units make up ones is whole. -/
theorem integral_of_dvd (whole : ∀ units, x.units? = some units → (unitsPerOne : Int) ∣ units) : x.Integral := by
  intro finite
  obtain ⟨units, counted⟩ := exists_units_of_isFinite finite
  obtain ⟨k, rfl⟩ := whole units counted
  exact ⟨k, toInt?_eq_some_iff.mpr (by rw [counted, Int.mul_comm])⟩

/-- A whole count is not rounded to a fraction. -/
theorem integral_ofNat (n : Nat) : (ofNat n).Integral :=
  integral_of_dvd fun _ counted => dvd_of_ofScaled (Dvd.intro_left n rfl) counted

theorem Integral.add (first : x.Integral) (second : y.Integral) : (x + y).Integral := by
  refine integral_of_dvd fun units counted => ?_
  obtain ⟨one, other⟩ : x.isFinite = true ∧ y.isFinite = true := by
    cases x with
    | nan => cases counted
    | infinite negative =>
      cases y with
      | nan => cases counted
      | infinite other => cases negative <;> cases other <;> cases counted
      | finite q t f other => cases counted
    | finite p s e canonical =>
      cases y with
      | nan => cases counted
      | infinite other => cases counted
      | finite q t f other => exact ⟨rfl, rfl⟩
  obtain ⟨a, wholeA⟩ := first one
  obtain ⟨b, wholeB⟩ := second other
  obtain ⟨negative, magnitude, exponent, same, sum⟩ :=
    add_eq_ofScaled (toInt?_eq_some_iff.mp wholeA) (toInt?_eq_some_iff.mp wholeB)
  rw [same] at counted
  refine dvd_of_ofScaled ?_ counted
  rw [← natAbs_signed negative (magnitude * 2 ^ exponent), sum, ← Int.add_mul, Int.natAbs_mul, Int.natAbs_natCast]
  exact Nat.dvd_mul_left _ _

theorem Integral.mul (first : x.Integral) (second : y.Integral) : (x * y).Integral := by
  refine integral_of_dvd fun units counted => ?_
  obtain ⟨one, other⟩ : x.isFinite = true ∧ y.isFinite = true := by
    cases x with
    | nan => cases counted
    | infinite negative =>
      cases y with
      | nan => cases counted
      | infinite other => cases counted
      | finite q t f other =>
        change (if t = 0 then nan else infinite _).units? = _ at counted
        split at counted <;> cases counted
    | finite p s e canonical =>
      cases y with
      | nan => cases counted
      | infinite other =>
        change (if s = 0 then nan else infinite _).units? = _ at counted
        split at counted <;> cases counted
      | finite q t f other => exact ⟨rfl, rfl⟩
  obtain ⟨a, wholeA⟩ := first one
  obtain ⟨b, wholeB⟩ := second other
  obtain ⟨negative, magnitude, exponent, same, product, _⟩ := mul_eq_ofScaled wholeA wholeB
  rw [same] at counted
  refine dvd_of_ofScaled ?_ counted
  rw [product]
  exact Nat.dvd_mul_left _ _

/-- Of two neighbours on a grid that is finer than the last bit, the nearer one reads back. -/
theorem candidate?_isSome {place : Nat} (significant : 0 < s) (fine : 10 ^ place < 2 ^ k)
    (half : s = 2 ^ (52 : Nat) → 2 * 10 ^ place ≤ 2 ^ k) : (candidate? s (1074 + k) place).isSome = true := by
  have shifted : ((2 ^ (1074 + k) : Nat) : Rat) = (2 ^ k : Nat) * unitsPerOne := by
    rw [show 1074 + k = k + bias from Nat.add_comm _ _, Nat.pow_add, Nat.cast_mul, unitsPerOne]
  have one : (0 : Rat) < unitsPerOne := by exact_mod_cast unitsPerOne_pos
  refine candidate?_isSome_of_near fun candidate close => isNear_of_abs_sub_le significant.ne' close ?_ fun least => ?_
  · rw [shifted, zpow_natCast]
    exact mul_lt_mul_of_pos_right (by exact_mod_cast fine) one
  · rw [shifted, zpow_natCast, ← mul_assoc]
    exact mul_le_mul_of_nonneg_right (by exact_mod_cast half least) one.le

/-- Below a power of ten that the last bit divides, a magnitude stays below it with half of the last bit. -/
theorem add_bit_le (full : 2 ^ (52 : Nat) ≤ s) (range : s * 2 ^ k < 10 ^ (21 : Nat)) :
    s * 2 ^ k + 2 ^ k ≤ 10 ^ (21 : Nat) := by
  have few : k < 18 := by
    apply (Nat.pow_lt_pow_iff_right (a := 2) (by decide)).mp
    have long : 2 ^ (52 : Nat) * 2 ^ k ≤ s * 2 ^ k := Nat.mul_le_mul_right _ full
    omega
  obtain ⟨c, multiple⟩ : 2 ^ k ∣ 10 ^ (21 : Nat) := (Nat.pow_dvd_pow 2 (show k ≤ 21 by omega)).trans (by decide)
  rw [multiple, Nat.mul_comm s] at range
  calc s * 2 ^ k + 2 ^ k = 2 ^ k * (s + 1) := by ring
    _ ≤ 2 ^ k * c := Nat.mul_le_mul_left _ (Nat.lt_of_mul_lt_mul_left range)
    _ = 10 ^ (21 : Nat) := multiple.symm

/-- A number of more than 53 bits and no more than twenty-one digits is written as a numeral. -/
theorem exists_text_of_long {canonical} (full : 2 ^ (52 : Nat) ≤ s) (some : 0 < k) (range : s * 2 ^ k < 10 ^ (21 : Nat)) :
    ∃ value, (finite false s (1074 + k) canonical).text = Text.numeral value := by
  have bit := Nat.two_pow_pos k
  have long : 2 ^ (52 : Nat) * 2 ^ k ≤ s * 2 ^ k := Nat.mul_le_mul_right _ full
  have short : s * 2 ^ k < 2 ^ (53 : Nat) * 2 ^ k := Nat.mul_lt_mul_of_pos_right canonical.1 bit
  have few : (s * 2 ^ k).log2 < 80 := (Nat.log2_lt (by omega)).mpr (range.trans (by decide))
  obtain ⟨size, logarithm, low, high⟩ := floorLog10_spec (n := s * 2 ^ k) (by omega) few
  -- The seventeenth digit stands for less than the last bit.
  have ends : (candidate? s (1074 + k) (size - 16 : Nat)).isSome = true := by
    have even : 2 ≤ 2 ^ k := Nat.le_self_pow some.ne' 2
    rcases Nat.lt_or_ge size 16 with less | more
    · rw [show size - 16 = 0 by omega]
      exact candidate?_isSome (by omega) (by omega) fun _ => by omega
    · rw [← Nat.add_sub_cancel' more, Nat.pow_add] at low
      refine candidate?_isSome (by omega) (by omega) ?_
      rintro rfl
      omega
  obtain ⟨least, reads⟩ := searchDigits_reads ends size 16 1 (by omega) (by omega)
  obtain ⟨scale, whole⟩ := Int.eq_ofNat_of_zero_le ((Int.natCast_nonneg _).trans least)
  rw [whole] at reads
  obtain ⟨below, above⟩ := near_of_readsBack scale reads
  have room := add_bit_le full range
  have positive : 0 < (searchDigits s (1074 + k) size 16 1).1 := by
    apply Nat.pos_of_ne_zero
    intro nothing
    rw [nothing] at below
    omega
  exact ⟨_, text_of_searchDigits positive (by omega) logarithm (Prod.ext rfl whole) (by omega)⟩

/-- A whole number of no more than twenty-one digits is written as a numeral, its sign apart. -/
theorem Integral.exists_text (integral : x.Integral) (range : x.abs < ofNat (10 ^ (21 : Nat))) :
    ∃ value, x.abs.text = Text.numeral value := by
  have limit : (ofNat (10 ^ (21 : Nat))).units? = some ((10 ^ (21 : Nat) * unitsPerOne : Nat) : Int) := by decide +kernel
  cases x with
  | nan => cases range
  | infinite negative =>
    have beyond : ¬infinite false < ofNat (10 ^ (21 : Nat)) := by decide +kernel
    exact absurd range beyond
  | finite negative s e canonical =>
    obtain ⟨m, whole⟩ := integral rfl
    rcases Nat.lt_or_ge m.natAbs (2 ^ (53 : Nat)) with small | large
    · exact ⟨_, text_of_toInt? (toInt?_abs whole) small⟩
    · obtain ⟨_, units⟩ := units_of_finite whole
      obtain ⟨k, rfl, some⟩ : ∃ k, e = 1074 + k ∧ 0 < k := by
        refine ⟨e - 1074, ?_⟩
        have more : bias < e := by
          apply (Nat.pow_lt_pow_iff_right (a := 2) (by decide)).mp
          apply Nat.lt_of_mul_lt_mul_left (a := 2 ^ (53 : Nat))
          calc 2 ^ (53 : Nat) * 2 ^ bias ≤ m.natAbs * unitsPerOne := Nat.mul_le_mul_right _ large
            _ = s * 2 ^ e := units.symm
            _ < 2 ^ (53 : Nat) * 2 ^ e := Nat.mul_lt_mul_of_pos_right canonical.1 (Nat.two_pow_pos e)
        unfold bias at more
        omega
      have full : 2 ^ (52 : Nat) ≤ s := canonical.2.2.resolve_left (by omega)
      refine exists_text_of_long full some ?_
      have scaled : s * 2 ^ (1074 + k) = s * 2 ^ k * unitsPerOne := by
        rw [show 1074 + k = k + bias from Nat.add_comm _ _, Nat.pow_add, ← Nat.mul_assoc, unitsPerOne]
      rw [lt_iff_units (units_abs rfl) limit, natAbs_signed, Int.ofNat_lt, scaled] at range
      exact Nat.lt_of_mul_lt_mul_right range

end Spreadsheet.Number
