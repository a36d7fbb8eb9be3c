import Spreadsheet.Proofs.Number.Accuracy
import Spreadsheet.Proofs.Number.Exactness

/-! A number in two parts: the whole number below it, and the multiples of what is left. Rounding carries neither past a
whole number, so that the part that is left is counted by a numerator that is not above its denominator. -/
namespace Spreadsheet.Number
attribute [local instance (high)] instPowNat

variable {x : Number} {u bound : Nat}

theorem toInt?_zero_signed (negative : Bool) : (zero negative).toInt? = some 0 := by cases negative <;> decide +kernel

/-- Only a zero has a minus sign where the value is not negative. -/
private theorem eq_zero_of_signed {negative : Bool} {s e v : Nat} (value : signed negative (s * 2 ^ e) = (v : Int))
    (sign : negative = true) : s = 0 := by
  subst sign
  simp only [signed, ↓reduceIte] at value
  have none : s * 2 ^ e = 0 := by omega
  exact (Nat.mul_eq_zero.mp none).resolve_right (Nat.two_pow_pos e).ne'

/-- A number that is not whole has all of its bits below those of fifty-two. -/
theorem whole_or_small (units : x.units? = some (u : Int)) :
    (∃ w : Nat, x.toInt? = some (w : Int)) ∨ u < 2 ^ (52 : Nat) * unitsPerOne := by
  cases x with
  | nan => cases units
  | infinite negative => cases units
  | finite negative s e canonical =>
    have value : s * 2 ^ e = u := by
      rw [← natAbs_signed negative (s * 2 ^ e), Option.some.inj units, Int.natAbs_natCast]
    rcases Nat.lt_or_ge e bias with fine | coarse
    · right
      rw [← value, unitsPerOne]
      calc s * 2 ^ e < 2 ^ (53 : Nat) * 2 ^ e := Nat.mul_lt_mul_of_pos_right canonical.1 (Nat.two_pow_pos e)
        _ = 2 ^ (52 : Nat) * 2 ^ (e + 1) := by rw [Nat.pow_succ 2 e]; ring
        _ ≤ 2 ^ (52 : Nat) * 2 ^ bias := Nat.mul_le_mul_left _ (Nat.pow_le_pow_right (by decide) fine)
    · left
      refine ⟨s * 2 ^ (e - bias), toInt?_eq_some_iff.mpr ?_⟩
      rw [units, ← value, ← Int.natCast_mul, unitsPerOne, Nat.mul_assoc, ← Nat.pow_add, Nat.sub_add_cancel coarse]

/-- The magnitude of a number from zero on as a fraction. -/
private theorem fraction_of_units {negative : Bool} {s e : Nat}
    {canonical : s < 2 ^ (53 : Nat) ∧ e ≤ 2045 ∧ (e = 0 ∨ 2 ^ (52 : Nat) ≤ s)}
    (units : (finite negative s e canonical).units? = some (u : Int)) :
    (fraction s e).1 * unitsPerOne = u * (fraction s e).2 ∧ (negative = true → u = 0) := by
  have value := Option.some.inj units
  have size : s * 2 ^ e = u := by
    rw [← natAbs_signed negative (s * 2 ^ e), value, Int.natAbs_natCast]
  refine ⟨by rw [fraction_units, size], fun sign => ?_⟩
  rw [← size, eq_zero_of_signed value sign, Nat.zero_mul]

/-- The whole part of a number from zero on. -/
theorem toInt?_floor_of_units (units : x.units? = some (u : Int)) (small : u < 2 ^ (53 : Nat) * unitsPerOne) :
    x.floor.toInt? = some ((u / unitsPerOne : Nat) : Int) := by
  cases x with
  | nan => cases units
  | infinite negative => cases units
  | finite negative s e canonical =>
    obtain ⟨same, sign⟩ := fraction_of_units units
    have positive := fraction_pos s e
    have less : u / unitsPerOne < 2 ^ (53 : Nat) := (Nat.div_lt_iff_lt_mul unitsPerOne_pos).mpr small
    simp only [floor]
    generalize (fraction s e).1 = n at *
    generalize (fraction s e).2 = d at *
    have quotient : n / d = u / unitsPerOne := by
      rw [← Nat.mul_div_mul_right n d unitsPerOne_pos, same, Nat.mul_comm d, Nat.mul_div_mul_right _ _ positive]
    cases negative with
    | false =>
      have whole := toInt?_ofScaled false (n / d) bias (by rwa [quotient]) rfl
      rw [quotient] at whole
      rwa [if_neg (by decide), quotient]
    | true =>
      obtain rfl := sign rfl
      have none : n = 0 := by simpa [unitsPerOne_pos.ne'] using same
      rw [none, Nat.zero_add, if_pos rfl, Nat.div_eq_of_lt (by omega), Nat.zero_div, ofScaled_zero]
      exact toInt?_zero_signed true

/-- The nearest whole number to a number from zero on is not above a whole number that the number is not above. -/
theorem exists_toInt?_round (units : x.units? = some (u : Int)) (below : u ≤ bound * unitsPerOne)
    (small : bound < 2 ^ (53 : Nat)) : ∃ k ≤ bound, x.round.toInt? = some (k : Int) := by
  cases x with
  | nan => cases units
  | infinite negative => cases units
  | finite negative s e canonical =>
    obtain ⟨same, sign⟩ := fraction_of_units units
    have positive := fraction_pos s e
    simp only [round]
    generalize (fraction s e).1 = n at *
    generalize (fraction s e).2 = d at *
    have less : n ≤ bound * d := by
      apply Nat.le_of_mul_le_mul_right _ unitsPerOne_pos
      rw [same, Nat.mul_right_comm]
      exact Nat.mul_le_mul_right d below
    cases negative with
    | false =>
      have most : (2 * n + d) / (2 * d) < bound + 1 := by
        rw [Nat.div_lt_iff_lt_mul (by omega), Nat.mul_left_comm, Nat.add_mul]
        omega
      exact ⟨_, Nat.le_of_lt_succ most, toInt?_ofScaled false _ bias (by omega) rfl⟩
    | true =>
      obtain rfl := sign rfl
      have none : n = 0 := by simpa [unitsPerOne_pos.ne'] using same
      refine ⟨0, Nat.zero_le _, ?_⟩
      rw [none, Nat.mul_zero, Nat.zero_add, if_pos rfl, Nat.div_eq_of_lt (by omega), ofScaled_zero]
      exact toInt?_zero_signed true

section scaled
variable {bound magnitude k scale : Nat} {exponent : Int} (scaled : exponent + scale = k)
  (below : magnitude * 2 ^ k ≤ bound * unitsPerOne * 2 ^ scale)
include scaled below

/-- A magnitude that is not above a small whole number is not rounded to infinity. -/
private theorem exists_units_of_below (small : bound < 2 ^ (53 : Nat)) :
    ∃ u, (ofScaled false magnitude exponent).units? = some u := by
  have size : |((signed false magnitude : Int) : Rat) * 2 ^ exponent / unitsPerOne| ≤ bound := by
    have power : (2 : Rat) ^ exponent = 2 ^ k / 2 ^ scale := by
      rw [show exponent = k - scale by omega, zpow_sub₀ two_ne_zero, zpow_natCast, zpow_natCast]
    have one : (0 : Rat) < unitsPerOne := by exact_mod_cast unitsPerOne_pos
    rw [abs_div, abs_mul, abs_signed_cast, power, abs_of_pos one, abs_of_pos (by positivity), div_le_iff₀ one,
      ← mul_div_assoc, div_le_iff₀ (by positivity)]
    exact_mod_cast below
  obtain ⟨_, is, -⟩ := approximates_ofScaled rfl (abs_lt_of_le (size.trans (by exact_mod_cast (by omega))))
  obtain ⟨u, finite, -⟩ := toRat?_eq_some_iff.mp is
  exact ⟨u, finite⟩

/-- The units that it is rounded to are not longer than one. -/
private theorem exponent_le_of_below (some : magnitude ≠ 0) (small : bound < 2 ^ (53 : Nat)) :
    (exponent + magnitude.log2 - 52).toNat ≤ bias := by
  have bits : magnitude.log2 + k < 53 + bias + scale := by
    apply (Nat.pow_lt_pow_iff_right (a := 2) (by decide)).mp
    calc 2 ^ (magnitude.log2 + k) = 2 ^ magnitude.log2 * 2 ^ k := Nat.pow_add ..
      _ ≤ magnitude * 2 ^ k := Nat.mul_le_mul_right _ (Nat.log2_self_le some)
      _ ≤ bound * 2 ^ bias * 2 ^ scale := below
      _ < 2 ^ (53 : Nat) * 2 ^ bias * 2 ^ scale :=
        Nat.mul_lt_mul_of_pos_right (Nat.mul_lt_mul_of_pos_right small (Nat.two_pow_pos _)) (Nat.two_pow_pos _)
      _ = 2 ^ (53 + bias + scale) := by rw [← Nat.pow_add, ← Nat.pow_add]
  omega

/-- In units that are not longer than one, the whole number is a multiple, which is not passed. -/
private theorem significand_le_of_below {target : Nat} (limit : target ≤ bias) :
    (if (target : Int) - exponent ≤ 0 then magnitude * 2 ^ (-((target : Int) - exponent)).toNat
      else nearestEven magnitude (2 ^ ((target : Int) - exponent).toNat)) ≤ bound * 2 ^ (bias - target) := by
  rw [unitsPerOne] at below
  split
  · apply Nat.le_of_mul_le_mul_right _ (Nat.two_pow_pos (target + scale))
    rw [Nat.mul_assoc, Nat.mul_assoc, ← Nat.pow_add, ← Nat.pow_add,
      show (-(target - exponent)).toNat + (target + scale) = k by omega,
      show bias - target + (target + scale) = bias + scale by omega, Nat.pow_add, ← Nat.mul_assoc]
    exact below
  · refine (nearestEven_mem (Nat.two_pow_pos _) (by rw [Nat.zero_mul]; exact Nat.zero_le _) ?_).2
    apply Nat.le_of_mul_le_mul_right _ (Nat.two_pow_pos k)
    rw [Nat.mul_assoc bound, Nat.mul_assoc bound, ← Nat.pow_add, ← Nat.pow_add,
      show bias - target + ((target : Int) - exponent).toNat + k = bias + scale by omega, Nat.pow_add,
      ← Nat.mul_assoc]
    exact below

end scaled

/-- Rounding does not carry a magnitude past a whole number. -/
theorem exists_units_ofScaled (bound scale : Nat) {negative : Bool} {magnitude : Nat} {exponent : Int} {k : Nat}
    (sign : negative = true → magnitude = 0) (scaled : exponent + scale = k)
    (below : magnitude * 2 ^ k ≤ bound * unitsPerOne * 2 ^ scale) (small : bound < 2 ^ (53 : Nat)) :
    ∃ u ≤ bound * unitsPerOne, (ofScaled negative magnitude exponent).units? = some (u : Int) := by
  by_cases none : magnitude = 0
  · subst none
    refine ⟨0, Nat.zero_le _, ?_⟩
    rw [ofScaled_zero, toInt?_eq_some_iff.mp (toInt?_zero_signed negative), Int.zero_mul]
    rfl
  obtain rfl : negative = false := by simpa using mt sign none
  obtain ⟨_, finite⟩ := exists_units_of_below scaled below small
  have limit := exponent_le_of_below scaled below none small
  have most := significand_le_of_below scaled below limit
  rw [ofScaled, if_neg none] at finite ⊢
  dsimp only at finite ⊢
  generalize (exponent + magnitude.log2 - 52).toNat = target at *
  have high : bound * unitsPerOne = bound * 2 ^ (bias - target) * 2 ^ target := by
    rw [unitsPerOne, Nat.mul_assoc, ← Nat.pow_add, Nat.sub_add_cancel limit]
  refine ⟨_, ?_, finite.trans (congrArg some (units_of_ofSignificand finite))⟩
  rw [high]
  exact Nat.mul_le_mul_right _ most

/-- Rounding keeps the sign. -/
theorem isNegative_ofScaled (negative : Bool) (magnitude : Nat) (exponent : Int) :
    (ofScaled negative magnitude exponent).isNegative = negative := by
  have kept (s e : Nat) : (ofSignificand negative s e).isNegative = negative := by
    unfold ofSignificand
    split
    · rfl
    · split <;> rfl
  unfold ofScaled
  split
  · rfl
  · exact kept _ _

/-- A number without a minus sign has no negative value. -/
theorem exists_units_of_isNegative (finite : x.isFinite = true) (positive : x.isNegative = false) :
    ∃ u : Nat, x.units? = some (u : Int) := by
  cases x with
  | nan => cases finite
  | infinite negative => cases finite
  | finite negative s e canonical =>
    cases positive
    exact ⟨s * 2 ^ e, rfl⟩

/-- What is left of a number beside its whole part is not below zero and not above one. -/
theorem exists_units_sub_floor (units : x.units? = some (u : Int)) (small : u < 2 ^ (53 : Nat) * unitsPerOne) :
    ∃ v ≤ unitsPerOne, (x - x.floor).units? = some (v : Int) := by
  have floor := toInt?_eq_some_iff.mp (toInt?_floor_of_units units small)
  obtain ⟨negative, magnitude, exponent, same, difference⟩ :=
    add_eq_ofScaled (b := -((u / unitsPerOne : Nat) * unitsPerOne)) units (by rw [units_neg, floor]; rfl)
  have left : signed negative (magnitude * 2 ^ exponent) = (u % unitsPerOne : Nat) := by
    have division : ((u / unitsPerOne : Nat) : Int) * unitsPerOne + (u % unitsPerOne : Nat) = u := by
      exact_mod_cast Nat.div_add_mod' u unitsPerOne
    rw [difference]
    omega
  have most : magnitude * 2 ^ exponent < unitsPerOne := by
    rw [← natAbs_signed negative (magnitude * 2 ^ exponent), left, Int.natAbs_natCast]
    exact Nat.mod_lt u unitsPerOne_pos
  have rounded := exists_units_ofScaled 1 0 (k := exponent) (eq_zero_of_signed left)
    (Int.add_zero _) (by omega) (by decide)
  rw [Nat.one_mul, ← same] at rounded
  exact rounded

/-- A multiple of a part of one is not below zero and not above the multiplier. -/
theorem exists_units_mul {part : Number} {v d : Nat} (units : part.units? = some (v : Int)) (most : v ≤ unitsPerOne)
    (multiplier : x.toInt? = some (d : Int)) (small : d < 2 ^ (53 : Nat)) :
    ∃ p ≤ d * unitsPerOne, (part * x).units? = some (p : Int) := by
  cases part with
  | nan => cases units
  | infinite negative => cases units
  | finite p s e canonical =>
    cases x with
    | nan => cases multiplier
    | infinite negative => cases multiplier
    | finite q t f other =>
      obtain ⟨-, size⟩ := units_of_finite multiplier
      have value : s * 2 ^ e = v := by
        rw [← natAbs_signed p (s * 2 ^ e), Option.some.inj units, Int.natAbs_natCast]
      rw [Int.natAbs_natCast] at size
      have sign : (p != q) = true → s * t = 0 := by
        intro differ
        cases p with
        | true => rw [eq_zero_of_signed (Option.some.inj units) rfl, Nat.zero_mul]
        | false =>
          have second : signed q (t * 2 ^ f) = ((d * unitsPerOne : Nat) : Int) :=
            Option.some.inj (toInt?_eq_some_iff.mp multiplier)
          rw [eq_zero_of_signed second (by simpa using differ), Nat.mul_zero]
      refine exists_units_ofScaled d bias (k := e + f) sign (by unfold bias; omega) ?_ small
      rw [Nat.pow_add, Nat.mul_mul_mul_comm, value, size, Nat.mul_comm, ← unitsPerOne]
      exact Nat.mul_le_mul_left _ most

/-- The whole part of a number and the nearest numerator of what is left over a denominator. Only beside a whole part of
fewer than fifty-three bits something is left. -/
theorem exists_parts (units : x.units? = some (u : Int)) {d : Nat} (small : d < 2 ^ (53 : Nat)) :
    ∃ f k : Nat, x.floor.toInt? = some (f : Int) ∧ ((x - x.floor) * ofInt d).round.toInt? = some (k : Int) ∧ k ≤ d ∧
      (k ≠ 0 → f < 2 ^ (52 : Nat)) := by
  have divisor : (ofInt d).toInt? = some (d : Int) := toInt?_ofInt small
  rcases whole_or_small units with ⟨f, whole⟩ | less
  · have none : ((x - x.floor) * ofInt d).toInt? = some 0 := by
      rw [floor_of_toInt? whole, sub_self_of_toInt? whole]
      simpa using toInt?_mul (toInt?_zero_signed false) divisor (by simp)
    refine ⟨f, 0, by rw [floor_of_toInt? whole, whole], ?_, Nat.zero_le d, by simp⟩
    rw [round_of_toInt? none, none]
    rfl
  · have room : u < 2 ^ (53 : Nat) * unitsPerOne := by omega
    obtain ⟨v, most, left⟩ := exists_units_sub_floor units room
    obtain ⟨p, below, product⟩ := exists_units_mul left most divisor small
    obtain ⟨k, bounded, nearest⟩ := exists_toInt?_round product below small
    exact ⟨u / unitsPerOne, k, toInt?_floor_of_units units room, nearest, bounded,
      fun _ => (Nat.div_lt_iff_lt_mul unitsPerOne_pos).mpr less⟩

end Spreadsheet.Number
