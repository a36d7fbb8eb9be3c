import Spreadsheet.Proofs.Number.Rounding

/-! The order of numbers is the order of what they stand for: among finite numbers it compares units. -/
namespace Spreadsheet.Number
attribute [local instance (high)] instPowNat

private theorem magnitude_lt {s e t f : Nat} (bound : s < 2 ^ (53 : Nat)) (normal : f = 0 ∨ 2 ^ (52 : Nat) ≤ t)
    (less : e < f) : s * 2 ^ e < t * 2 ^ f := by
  have significant : 2 ^ (52 : Nat) ≤ t := by omega
  calc s * 2 ^ e < 2 ^ (53 : Nat) * 2 ^ e := Nat.mul_lt_mul_of_pos_right bound (Nat.two_pow_pos e)
    _ = 2 ^ (52 : Nat) * 2 ^ (e + 1) := by rw [← Nat.pow_add, ← Nat.pow_add]; congr 1; omega
    _ ≤ t * 2 ^ f := Nat.mul_le_mul significant (Nat.pow_le_pow_right (by decide) less)

/-- Canonical magnitudes are in the order of their values. -/
private theorem compareMagnitude_eq {s e t f : Nat}
    (first : s < 2 ^ (53 : Nat) ∧ e ≤ 2045 ∧ (e = 0 ∨ 2 ^ (52 : Nat) ≤ s))
    (second : t < 2 ^ (53 : Nat) ∧ f ≤ 2045 ∧ (f = 0 ∨ 2 ^ (52 : Nat) ≤ t)) :
    compareMagnitude s e t f = compare (s * 2 ^ e) (t * 2 ^ f) := by
  unfold compareMagnitude
  rcases Nat.lt_trichotomy e f with less | same | greater
  · have value := magnitude_lt first.1 second.2.2 less
    rw [Nat.compare_eq_lt.mpr less, Nat.compare_eq_lt.mpr value]
    rfl
  · subst same
    have scale := Nat.two_pow_pos e
    rw [Nat.compare_eq_eq.mpr rfl]
    change compare s t = _
    rcases Nat.lt_trichotomy s t with low | equal | high
    · rw [Nat.compare_eq_lt.mpr low, Nat.compare_eq_lt.mpr (Nat.mul_lt_mul_of_pos_right low scale)]
    · rw [equal, Nat.compare_eq_eq.mpr rfl, Nat.compare_eq_eq.mpr rfl]
    · rw [Nat.compare_eq_gt.mpr high, Nat.compare_eq_gt.mpr (Nat.mul_lt_mul_of_pos_right high scale)]
  · have value := magnitude_lt second.1 first.2.2 greater
    rw [Nat.compare_eq_gt.mpr greater, Nat.compare_eq_gt.mpr value]
    rfl

private theorem compare_signed (a b : Bool) (m n : Nat) :
    compare (signed a m) (signed b n) =
      if m = 0 ∧ n = 0 then .eq
      else if a then (if b then compare n m else .lt)
      else if b then .gt else compare m n := by
  cases a <;> cases b <;> simp only [signed, Bool.false_eq_true, ↓reduceIte] <;> split <;>
    simp only [compare, compareOfLessAndEq] <;> grind

/-- Finite numbers compare as their units do. -/
theorem compare?_eq {x y : Number} {a b : Int} (first : x.units? = some a) (second : y.units? = some b) :
    x.compare? y = some (compare a b) := by
  cases x with
  | nan => cases first
  | infinite negative => cases first
  | finite p s e canonical =>
    cases y with
    | nan => cases second
    | infinite negative => cases second
    | finite q t f other =>
      rw [← Option.some.inj first, ← Option.some.inj second, compare_signed]
      simp only [compare?, compareMagnitude_eq canonical other, compareMagnitude_eq other canonical]
      congr 2
      simp

/-- Numbers that are equal name the same whole number, if any. -/
theorem toInt?_of_same {x y : Number} {k : Int} (whole : x.toInt? = some k) (same : (x == y) = true) :
    y.toInt? = some k := by
  have equal : x.compare? y = some .eq := beq_iff_eq.mp same
  cases x with
  | nan => cases whole
  | infinite negative => cases whole
  | finite p s e canonical =>
    cases y with
    | nan => cases equal
    | infinite negative => cases negative <;> cases equal
    | finite q t f other =>
      rw [toInt?_eq_some_iff] at whole ⊢
      rw [compare?_eq whole rfl, Option.some.injEq, Int.compare_eq_eq] at equal
      rw [equal]
      rfl

/-- Whole numbers compare as integers do. -/
theorem compare?_of_toInt? {x y : Number} {a b : Int} (first : x.toInt? = some a) (second : y.toInt? = some b) :
    x.compare? y = some (compare a b) := by
  have one : (0 : Int) < unitsPerOne := by exact_mod_cast unitsPerOne_pos
  rw [compare?_eq (toInt?_eq_some_iff.mp first) (toInt?_eq_some_iff.mp second)]
  rcases Int.lt_trichotomy a b with less | rfl | greater
  · rw [Int.compare_eq_lt.mpr less, Int.compare_eq_lt.mpr (mul_lt_mul_of_pos_right less one)]
  · rw [Int.compare_eq_eq.mpr rfl, Int.compare_eq_eq.mpr rfl]
  · rw [Int.compare_eq_gt.mpr greater, Int.compare_eq_gt.mpr (mul_lt_mul_of_pos_right greater one)]

theorem lt_iff {x y : Number} {a b : Int} (first : x.toInt? = some a) (second : y.toInt? = some b) :
    x < y ↔ a < b := by
  change x.compare? y = some .lt ↔ a < b
  rw [compare?_of_toInt? first second, Option.some.injEq, Int.compare_eq_lt]

theorem toInt?_ofNat {k : Nat} (small : k < 2 ^ (53 : Nat)) : (ofNat k).toInt? = some (k : Int) :=
  toInt?_ofScaled false k bias small rfl

theorem toInt?_ofInt {k : Int} (small : k.natAbs < 2 ^ (53 : Nat)) : (ofInt k).toInt? = some k := by
  have exact := toInt?_ofScaled (k < 0) k.natAbs bias small rfl
  rw [show ofInt k = ofScaled (k < 0) k.natAbs (bias : Nat) from rfl, exact]
  by_cases negative : k < 0
  · simp only [signed, negative, decide_true, ↓reduceIte, Option.some.injEq]
    omega
  · simp only [signed, negative, decide_false, Bool.false_eq_true, ↓reduceIte, Option.some.injEq]
    omega

end Spreadsheet.Number
