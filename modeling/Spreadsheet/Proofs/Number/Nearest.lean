import Mathlib.Algebra.Order.Field.Power
import Spreadsheet.Proofs.Number.Accuracy
import Spreadsheet.Proofs.Number.Exactness
import Spreadsheet.Proofs.Number.Numerals

/-! The values that read back as a number. Each number has an interval of them, no two of which meet: the middle between
two neighbours goes to the even one. Seventeen digits always come so near to a number that they read back as it. -/
namespace Spreadsheet.Number
attribute [local instance (high)] instPowNat
variable {s e t f candidate : Nat} {scale : Int} {value : Rat}

/-- A power as a fraction of powers, one of which is 1. -/
theorem zpow_eq_div (base : Nat) (positive : 0 < base) (exponent : Int) :
    (base : Rat) ^ exponent = (base ^ exponent.toNat : Nat) / (base ^ (-exponent).toNat : Nat) := by
  have some : (base : Rat) ≠ 0 := by exact_mod_cast positive.ne'
  push_cast
  rw [← zpow_natCast, ← zpow_natCast, ← zpow_sub₀ some]
  congr 1
  omega

/-- A value that is nearer to a number than to any other. The bounds are told in quarters of the least number. -/
def IsNear (s e : Nat) (value : Rat) : Prop :=
  let quarters := 4 * (value * unitsPerOne)
  if s % 2 = 0 then ((roundingBounds s e).1 * 2 ^ e : Nat) ≤ quarters ∧ quarters ≤ ((roundingBounds s e).2 * 2 ^ e : Nat)
  else ((roundingBounds s e).1 * 2 ^ e : Nat) < quarters ∧ quarters < ((roundingBounds s e).2 * 2 ^ e : Nat)

/-- The powers of two that two sides share are left out. -/
private theorem mul_two_pow_le_iff (m n : Nat) :
    (m * 2 ^ e ≤ 4 * (n * unitsPerOne) ↔ m * 2 ^ (e - 1076) ≤ n * 2 ^ (1076 - e)) ∧
      (4 * (n * unitsPerOne) ≤ m * 2 ^ e ↔ n * 2 ^ (1076 - e) ≤ m * 2 ^ (e - 1076)) := by
  have first : 2 ^ e = 2 ^ (e - 1076) * 2 ^ min e 1076 := by
    rw [← Nat.pow_add]
    congr 1
    omega
  have second : 4 * unitsPerOne = 2 ^ (1076 - e) * 2 ^ min e 1076 := by
    rw [← Nat.pow_add, unitsPerOne, show 1076 - e + min e 1076 = 2 + bias by unfold bias; omega, Nat.pow_add]
  have shared := Nat.two_pow_pos (min e 1076)
  rw [Nat.mul_left_comm, first, second, ← Nat.mul_assoc, ← Nat.mul_assoc, Nat.mul_le_mul_right_iff shared,
    Nat.mul_le_mul_right_iff shared]
  exact ⟨Iff.rfl, Iff.rfl⟩

theorem readsBack_iff_isNear : readsBack s e scale candidate = true ↔ IsNear s e (candidate * 10 ^ scale) := by
  have below : (0 : Rat) < (10 ^ (-scale).toNat : Nat) := by exact_mod_cast Nat.pow_pos (by decide)
  have power : (10 : Rat) ^ scale = (10 ^ scale.toNat : Nat) / (10 ^ (-scale).toNat : Nat) :=
    zpow_eq_div 10 (by decide) scale
  have quarters : 4 * ((candidate : Rat) * 10 ^ scale * unitsPerOne) =
      (4 * (candidate * 10 ^ scale.toNat * unitsPerOne) : Nat) / (10 ^ (-scale).toNat : Nat) := by
    rw [power]
    push_cast
    ring
  have atLeast (bound : Nat) : ((bound * 2 ^ e : Nat) : Rat) ≤ 4 * (candidate * 10 ^ scale * unitsPerOne) ↔
      bound * 2 ^ (e - 1076) * 10 ^ (-scale).toNat ≤ candidate * 10 ^ scale.toNat * 2 ^ (1076 - e) := by
    rw [quarters, le_div_iff₀ below, ← Nat.cast_mul, Nat.cast_le, Nat.mul_right_comm, (mul_two_pow_le_iff _ _).1,
      Nat.mul_right_comm]
  have atMost (bound : Nat) : 4 * (candidate * 10 ^ scale * unitsPerOne) ≤ ((bound * 2 ^ e : Nat) : Rat) ↔
      candidate * 10 ^ scale.toNat * 2 ^ (1076 - e) ≤ bound * 2 ^ (e - 1076) * 10 ^ (-scale).toNat := by
    rw [quarters, div_le_iff₀ below, ← Nat.cast_mul, Nat.cast_le, Nat.mul_right_comm bound, (mul_two_pow_le_iff _ _).2,
      Nat.mul_right_comm bound]
  unfold readsBack IsNear
  dsimp only
  split
  · simp only [Bool.and_eq_true, decide_eq_true_eq, atLeast, atMost]
  · simp only [Bool.and_eq_true, decide_eq_true_eq, ← not_le, atLeast, atMost]

theorem IsNear.bounds (near : IsNear s e value) :
    ((roundingBounds s e).1 * 2 ^ e : Nat) ≤ 4 * (value * unitsPerOne) ∧
      4 * (value * unitsPerOne) ≤ ((4 * s + 2) * 2 ^ e : Nat) := by
  unfold IsNear at near
  dsimp only at near
  split at near
  · exact near
  · exact ⟨near.1.le, near.2.le⟩

/-- The bounds themselves are not near to an odd number. -/
theorem IsNear.strict (near : IsNear s e value) (odd : s % 2 = 1) :
    ((roundingBounds s e).1 * 2 ^ e : Nat) < 4 * (value * unitsPerOne) ∧
      4 * (value * unitsPerOne) < ((4 * s + 2) * 2 ^ e : Nat) := by
  unfold IsNear at near
  dsimp only at near
  rwa [if_neg (by omega)] at near

/-- What is near to a number that is not zero is not zero. -/
theorem IsNear.pos (near : IsNear s e value) (some : s ≠ 0) : 0 < value := by
  have low : 0 < (roundingBounds s e).1 := by
    unfold roundingBounds
    dsimp only
    split <;> omega
  have quarters : (0 : Rat) < ((roundingBounds s e).1 * 2 ^ e : Nat) := by
    exact_mod_cast Nat.mul_pos low (Nat.two_pow_pos e)
  have one : (0 : Rat) < unitsPerOne := by exact_mod_cast unitsPerOne_pos
  have positive := (mul_pos_iff_of_pos_left zero_lt_four).mp (quarters.trans_le near.bounds.1)
  exact (mul_pos_iff_of_pos_right one).mp positive

/-- No value is near to two numbers of which one is greater: where their intervals touch, one of the two is odd. -/
private theorem not_isNear_of_less (form : s < 2 ^ (53 : Nat)) (other : f = 0 ∨ 2 ^ (52 : Nat) ≤ t)
    (less : e < f ∨ e = f ∧ s < t) (near : IsNear s e value) : ¬IsNear t f value := by
  intro far
  have touch : (roundingBounds t f).1 * 2 ^ f ≤ (4 * s + 2) * 2 ^ e := by
    exact_mod_cast far.bounds.1.trans near.bounds.2
  have even : s % 2 = 1 ∨ t % 2 = 1 → (roundingBounds t f).1 * 2 ^ f < (4 * s + 2) * 2 ^ e := by
    rintro (odd | odd)
    · exact_mod_cast far.bounds.1.trans_lt (near.strict odd).2
    · exact_mod_cast (far.strict odd).1.trans_le near.bounds.2
  have place := Nat.two_pow_pos e
  have low : 4 * t ≤ (roundingBounds t f).1 + 2 ∧ (t = 2 ^ (52 : Nat) → 0 < f → 4 * t = (roundingBounds t f).1 + 1) := by
    unfold roundingBounds
    dsimp only
    split <;> omega
  generalize (roundingBounds t f).1 = bound at touch even low
  rcases less with less | ⟨rfl, less⟩
  · obtain ⟨more, rfl⟩ : ∃ more, f = e + (more + 1) := ⟨f - e - 1, by omega⟩
    have normal : 2 ^ (52 : Nat) ≤ t := other.resolve_left (by omega)
    have double : 2 ^ (e + (more + 1)) = 2 ^ (more + 1) * 2 ^ e := by rw [Nat.add_comm, Nat.pow_add]
    have twice : bound * 2 ≤ bound * 2 ^ (more + 1) := Nat.mul_le_mul_left _ (Nat.le_self_pow (by omega) 2)
    simp only [double, ← Nat.mul_assoc, Nat.mul_le_mul_right_iff place, Nat.mul_lt_mul_right place] at touch even
    omega
  · simp only [Nat.mul_le_mul_right_iff place, Nat.mul_lt_mul_right place] at touch even
    omega

/-- No value is near to two numbers. -/
theorem IsNear.unique (near : IsNear s e value) (other : IsNear t f value)
    (canonical : s < 2 ^ (53 : Nat) ∧ e ≤ 2045 ∧ (e = 0 ∨ 2 ^ (52 : Nat) ≤ s))
    (form : t < 2 ^ (53 : Nat) ∧ f ≤ 2045 ∧ (f = 0 ∨ 2 ^ (52 : Nat) ≤ t)) : s = t ∧ e = f := by
  have first : ¬(e < f ∨ e = f ∧ s < t) := fun less => not_isNear_of_less canonical.1 form.2.2 less near other
  have second : ¬(f < e ∨ f = e ∧ t < s) := fun less => not_isNear_of_less form.1 canonical.2.2 less other near
  omega

section search
variable {n d : Nat}

/-- The exact magnitude of a number. -/
def magnitude (s e : Nat) : Rat := (s * 2 ^ e : Nat) / unitsPerOne

theorem magnitude_eq (s e : Nat) : magnitude s e = ((fraction s e).1 : Rat) / (fraction s e).2 := by
  have below : ((fraction s e).2 : Rat) ≠ 0 := by exact_mod_cast (fraction_pos s e).ne'
  have one : (unitsPerOne : Rat) ≠ 0 := by exact_mod_cast unitsPerOne_pos.ne'
  rw [magnitude, div_eq_div_iff one below]
  exact_mod_cast (fraction_units s e).symm

theorem zpow_mul_le_iff (base : Nat) (positive : 0 < base) (exponent : Int) (m n : Nat) :
    (base : Rat) ^ exponent * m ≤ n ↔ base ^ exponent.toNat * m ≤ base ^ (-exponent).toNat * n := by
  have below : (0 : Rat) < (base ^ (-exponent).toNat : Nat) := by exact_mod_cast Nat.pow_pos positive
  rw [zpow_eq_div base positive, div_mul_eq_mul_div, div_le_iff₀ below, mul_comm (n : Rat)]
  exact_mod_cast Iff.rfl

/-- A power of two above one, and a power of ten whose exponent is estimated by a ratio not much too great. -/
private theorem ten_pow_le {p q bits guess : Nat} (some : p ≠ 0) (ratio : 10 ^ q ≤ 2 ^ (p + 1))
    (estimate : p * guess ≤ q * bits) (short : bits ≤ p) : 10 ^ guess ≤ 10 * 2 ^ bits := by
  apply (Nat.pow_le_pow_iff_left some).mp
  calc (10 ^ guess) ^ p = 10 ^ (p * guess) := by rw [← Nat.pow_mul, Nat.mul_comm]
    _ ≤ 10 ^ (q * bits) := Nat.pow_le_pow_right (by decide) estimate
    _ = (10 ^ q) ^ bits := Nat.pow_mul 10 q bits
    _ ≤ (2 ^ (p + 1)) ^ bits := Nat.pow_le_pow_left ratio bits
    _ = 2 ^ bits * (2 ^ bits) ^ p := by rw [← Nat.pow_mul, ← Nat.pow_mul, ← Nat.pow_add]; congr 1; ring
    _ ≤ 10 ^ p * (2 ^ bits) ^ p := by
      refine Nat.mul_le_mul_right _ ((Nat.pow_le_pow_right (by decide) short).trans ?_)
      exact Nat.pow_le_pow_left (by decide) p
    _ = (10 * 2 ^ bits) ^ p := (Nat.mul_pow 10 (2 ^ bits) p).symm

/-- A power of two below one, for a ratio that is not too small. -/
private theorem two_pow_le {p q bits guess : Nat} (some : p ≠ 0) (ratio : 2 ^ p ≤ 10 ^ q)
    (estimate : q * bits ≤ p * guess) : 2 ^ bits ≤ 10 ^ guess := by
  apply (Nat.pow_le_pow_iff_left some).mp
  calc (2 ^ bits) ^ p = (2 ^ p) ^ bits := by rw [← Nat.pow_mul, ← Nat.pow_mul, Nat.mul_comm]
    _ ≤ (10 ^ q) ^ bits := Nat.pow_le_pow_left ratio bits
    _ = 10 ^ (q * bits) := (Nat.pow_mul 10 q bits).symm
    _ ≤ 10 ^ (p * guess) := Nat.pow_le_pow_right (by decide) estimate
    _ = (10 ^ guess) ^ p := by rw [← Nat.pow_mul, Nat.mul_comm]

/-- The estimate of the decimal logarithm is too great by less than one. -/
private theorem ten_zpow_le_two_zpow {exponent : Int} (short : exponent ≤ 100000) :
    (10 : Rat) ^ ((exponent * 30103).fdiv 100000 - 1) ≤ 2 ^ exponent := by
  rw [Int.fdiv_eq_ediv_of_nonneg _ (by decide)]
  rcases Int.le_total 0 exponent with more | less
  · obtain ⟨bits, rfl⟩ := Int.eq_ofNat_of_zero_le more
    have power : 10 ^ (bits * 30103 / 100000) ≤ 10 * 2 ^ bits :=
      @ten_pow_le 100000 30103 _ _ (by decide) (by decide +kernel) (by omega) (by omega)
    rw [zpow_sub_one₀ (by norm_num), ← div_eq_mul_inv, div_le_iff₀' (by norm_num)]
    exact_mod_cast power
  · obtain ⟨bits, rfl⟩ : ∃ bits : Nat, exponent = -bits := ⟨(-exponent).toNat, by omega⟩
    have power : 2 ^ bits ≤ 10 ^ ((bits * 30103 + 99999) / 100000 + 1) :=
      @two_pow_le 100000 30103 _ _ (by decide) (by decide +kernel) (by omega)
    rw [show -(bits : Int) * 30103 / 100000 - 1 = -((bits * 30103 + 99999) / 100000 + 1 : Nat) by omega, zpow_neg,
      zpow_neg, zpow_natCast, zpow_natCast]
    exact inv_anti₀ (by positivity) (by exact_mod_cast power)

/-- The decimal logarithm is not too great. -/
theorem ten_zpow_floorLog10_le (some : 0 < n) (positive : 0 < d) (short : floorLog2 n d ≤ 100000) :
    (10 : Rat) ^ floorLog10 n d ≤ n / d := by
  have below : (0 : Rat) < d := by exact_mod_cast positive
  have reaches (exponent : Int) (reached : 10 ^ exponent.toNat * d ≤ 10 ^ (-exponent).toNat * n) :
      (10 : Rat) ^ exponent ≤ n / d := by
    rw [le_div_iff₀ below]
    exact_mod_cast (zpow_mul_le_iff 10 (by decide) exponent d n).mpr reached
  unfold floorLog10
  simp only [decide_eq_true_eq]
  split
  · exact reaches _ ‹_›
  split
  · exact reaches _ ‹_›
  · refine (ten_zpow_le_two_zpow short).trans ?_
    have logarithm : floorLog2 n d = ((floorLog2 n d).toNat : Int) - (-floorLog2 n d).toNat := by omega
    have reached := (floorLog2_spec some positive logarithm).1
    rw [le_div_iff₀ below]
    exact_mod_cast (zpow_mul_le_iff 2 (by decide) _ d n).mpr reached

/-- What is closer to a number than half of a distance that is small beside the last bit is near to it. -/
theorem isNear_of_abs_sub_le {unit : Rat} (some : s ≠ 0) (close : |value - magnitude s e| ≤ unit / 2)
    (fine : unit * unitsPerOne < (2 ^ e : Nat)) (half : s = 2 ^ (52 : Nat) → 2 * (unit * unitsPerOne) ≤ (2 ^ e : Nat)) :
    IsNear s e value := by
  have one : (0 : Rat) < unitsPerOne := by exact_mod_cast unitsPerOne_pos
  have centre : 4 * (magnitude s e * unitsPerOne) = 4 * s * (2 ^ e : Nat) := by
    rw [magnitude, div_mul_cancel₀ _ one.ne', Nat.cast_mul, mul_assoc]
  have reach : |4 * (value * unitsPerOne) - 4 * s * (2 ^ e : Nat)| ≤ 2 * (unit * unitsPerOne) := by
    rw [← centre, ← mul_sub, ← sub_mul, abs_mul, abs_mul, abs_of_pos one, abs_of_pos (by norm_num : (0 : Rat) < 4)]
    nlinarith
  obtain ⟨below, above⟩ := abs_le.mp reach
  unfold IsNear roundingBounds
  dsimp only
  generalize 4 * (value * unitsPerOne) = quarters at *
  generalize unit * unitsPerOne = gap at *
  generalize 2 ^ e = place at *
  have high : quarters < ((4 * s + 2) * place : Nat) := by
    push_cast
    linarith
  by_cases least : s = 2 ^ (52 : Nat) ∧ 0 < e
  · have room := half least.1
    rw [if_pos (by omega), if_pos least]
    refine ⟨?_, high.le⟩
    rw [Nat.cast_mul, Nat.cast_sub (by omega)]
    push_cast
    linarith
  · have low : ((4 * s - 2) * place : Nat) < quarters := by
      rw [Nat.cast_mul, Nat.cast_sub (by omega)]
      push_cast
      linarith
    rw [if_neg least]
    split
    · exact ⟨low.le, high.le⟩
    · exact ⟨low, high⟩

/-- Of the two neighbours of a fraction the nearest one is tried first. -/
private theorem candidate?_isSome_of_nearestEven {n d : Nat} (scaled : n = (fraction s e).1 * 10 ^ (-scale).toNat)
    (below : d = (fraction s e).2 * 10 ^ scale.toNat) (reads : readsBack s e scale (nearestEven n d) = true) :
    (candidate? s e scale).isSome = true := by
  unfold candidate?
  simp only [List.find?_isSome, ← scaled, ← below]
  refine ⟨nearestEven n d, ?_, reads⟩
  unfold nearestEven
  dsimp only
  split <;> split <;> simp

/-- The nearest digits on a grid read back if everything does that is as near to the number as they are. -/
theorem candidate?_isSome_of_near (near : ∀ candidate : Nat,
    |candidate * 10 ^ scale - magnitude s e| ≤ 10 ^ scale / 2 → IsNear s e (candidate * 10 ^ scale)) :
    (candidate? s e scale).isSome = true := by
  have positive : 0 < (fraction s e).2 * 10 ^ scale.toNat := Nat.mul_pos (fraction_pos s e) (Nat.pow_pos (by decide))
  have grid : magnitude s e =
      ((fraction s e).1 * 10 ^ (-scale).toNat : Nat) / ((fraction s e).2 * 10 ^ scale.toNat : Nat) * 10 ^ scale := by
    have power : (10 : Rat) ^ scale = (10 ^ scale.toNat : Nat) / (10 ^ (-scale).toNat : Nat) :=
      zpow_eq_div 10 (by decide) scale
    have bottom : (0 : Rat) < (fraction s e).2 := by exact_mod_cast fraction_pos s e
    have below : (0 : Rat) < (10 ^ (-scale).toNat : Nat) := by exact_mod_cast Nat.pow_pos (by decide)
    have above : (0 : Rat) < (10 ^ scale.toNat : Nat) := by exact_mod_cast Nat.pow_pos (by decide)
    rw [magnitude_eq, power, Nat.cast_mul, Nat.cast_mul, div_mul_div_comm, div_eq_div_iff bottom.ne'
      (mul_pos (mul_pos bottom above) below).ne']
    ring
  refine candidate?_isSome_of_nearestEven rfl rfl (readsBack_iff_isNear.mpr (near _ ?_))
  have close := abs_nearestEven_sub ((fraction s e).1 * 10 ^ (-scale).toNat) positive
  have unit : (0 : Rat) < 10 ^ scale := zpow_pos (by norm_num) scale
  have half := mul_le_mul_of_nonneg_right close unit.le
  rw [grid, ← sub_mul, abs_mul, abs_of_pos unit]
  linarith

/-- What is closer to a number than half of a grid is the nearest on it, and found if it reads back. -/
theorem candidate?_isSome_of_readsBack (reads : readsBack s e scale candidate = true)
    (close : |candidate * 10 ^ scale - magnitude s e| < 10 ^ scale / 2) : (candidate? s e scale).isSome = true := by
  refine candidate?_isSome_of_near fun other near => ?_
  have unit : (0 : Rat) < 10 ^ scale := zpow_pos (by norm_num) scale
  have apart : |((other : Int) - candidate : Int)| < 1 := by
    have distance : |((other : Rat) - candidate)| * 10 ^ scale < 1 * 10 ^ scale := by
      rw [← abs_of_pos unit, ← abs_mul, sub_mul, abs_of_pos unit, one_mul]
      have bound := abs_sub_le (other * (10 : Rat) ^ scale) (magnitude s e) (candidate * 10 ^ scale)
      rw [abs_sub_comm (magnitude s e)] at bound
      linarith
    exact_mod_cast lt_of_mul_lt_mul_right distance unit.le
  have same : other = candidate := by
    rw [Int.abs_lt_one_iff] at apart
    omega
  rw [same]
  exact readsBack_iff_isNear.mp reads

/-- The seventeenth digit stands for less than the last bit. -/
theorem candidate?_isSome_of_canonical (some : s ≠ 0)
    (canonical : s < 2 ^ (53 : Nat) ∧ e ≤ 2045 ∧ (e = 0 ∨ 2 ^ (52 : Nat) ≤ s)) :
    (candidate? s e (floorLog10 (fraction s e).1 (fraction s e).2 - 16)).isSome = true := by
  have logarithm := floorLog2_add some (fraction_pos s e) (fraction_units s e)
  have bits : s.log2 < 53 := (Nat.log2_lt some).mpr canonical.1
  unfold bias at logarithm
  have reached : (10 : Rat) ^ floorLog10 (fraction s e).1 (fraction s e).2 ≤ magnitude s e := by
    rw [magnitude_eq]
    refine ten_zpow_floorLog10_le ?_ (fraction_pos s e) (by omega)
    exact Nat.mul_pos (Nat.pos_of_ne_zero some) (Nat.two_pow_pos _)
  have one : (0 : Rat) < unitsPerOne := by exact_mod_cast unitsPerOne_pos
  have digits : (10 : Rat) ^ (floorLog10 (fraction s e).1 (fraction s e).2 - 16) * unitsPerOne * 10 ^ 16 ≤
      s * (2 ^ e : Nat) := by
    rw [magnitude, le_div_iff₀ one, Nat.cast_mul] at reached
    rw [zpow_sub₀ (by norm_num), mul_right_comm]
    refine le_of_eq_of_le ?_ reached
    field_simp
  have place : (0 : Rat) < (2 ^ e : Nat) := by exact_mod_cast Nat.two_pow_pos e
  refine candidate?_isSome_of_near fun candidate close => isNear_of_abs_sub_le some close ?_ ?_
  · have short : (s : Rat) ≤ 2 ^ 53 := by exact_mod_cast canonical.1.le
    have bound := mul_le_mul_of_nonneg_right short place.le
    linarith
  · intro least
    have size : (s : Rat) = 2 ^ 52 := by exact_mod_cast congrArg Nat.cast least
    rw [size] at digits
    linarith

end search

end Spreadsheet.Number
