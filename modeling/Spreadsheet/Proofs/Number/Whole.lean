import Spreadsheet.Proofs.Number.Order

/-! Whole numbers as numbers. Each but zero has one form only, and small products are exact, so that a number that is
reckoned from small whole ones is the plain form of the result. -/
namespace Spreadsheet.Number
attribute [local instance (high)] instPowNat

variable {x y : Number} {a b k : Int}

/-- Only the two zeros are numbers of one value and different forms. -/
theorem eq_of_units? (first : x.units? = some a) (second : y.units? = some a) (different : a ≠ 0) : x = y := by
  have equal : x.compare? y = some .eq := by
    rw [compare?_eq first second, Int.compare_eq_eq.mpr rfl]
  cases x with
  | nan => cases first
  | infinite negative => cases first
  | finite p s e canonical =>
    cases y with
    | nan => cases second
    | infinite negative => cases second
    | finite q t f other =>
      have significant : s ≠ 0 := by
        rintro rfl
        apply different
        rw [← Option.some.inj first]
        cases p <;> simp [signed]
      rw [compare?, if_neg fun zeros => significant zeros.1, Option.some.injEq] at equal
      cases p <;> cases q <;>
        simp only [Bool.false_eq_true, ↓reduceIte, reduceCtorEq, compareMagnitude, Ordering.then_eq_eq,
          Nat.compare_eq_eq] at equal <;>
        simp only [equal.1, equal.2]

theorem eq_of_toInt? (first : x.toInt? = some k) (second : y.toInt? = some k) (different : k ≠ 0) : x = y := by
  refine eq_of_units? (toInt?_eq_some_iff.mp first) (toInt?_eq_some_iff.mp second) ?_
  exact Int.mul_ne_zero different (by exact_mod_cast unitsPerOne_pos.ne')

theorem truncate?_of_toInt? (whole : x.toInt? = some k) : x.truncate? = some k := by
  cases x with
  | nan => cases whole
  | infinite negative => cases whole
  | finite p s e canonical =>
    simp only [toInt?, Option.ite_none_right_eq_some] at whole
    exact whole.2

/-- Sign and magnitude of a finite number that is whole. -/
theorem units_of_finite {p : Bool} {s e : Nat}
    {canonical : s < 2 ^ (53 : Nat) ∧ e ≤ 2045 ∧ (e = 0 ∨ 2 ^ (52 : Nat) ≤ s)}
    (whole : (finite p s e canonical).toInt? = some a) :
    signed p a.natAbs = a ∧ s * 2 ^ e = a.natAbs * unitsPerOne := by
  rw [toInt?_eq_some_iff, units?, Option.some.injEq] at whole
  have size : s * 2 ^ e = a.natAbs * unitsPerOne := by
    rw [← natAbs_signed p (s * 2 ^ e), whole, Int.natAbs_mul, Int.natAbs_natCast]
  refine ⟨?_, size⟩
  rw [size, signed_mul] at whole
  exact Int.eq_of_mul_eq_mul_right (by exact_mod_cast unitsPerOne_pos.ne') whole

/-- A difference of equal numbers is the plain zero. -/
theorem sub_self_of_toInt? (whole : x.toInt? = some k) : x - x = zero false := by
  cases x with
  | nan => cases whole
  | infinite negative => cases whole
  | finite p s e canonical =>
    change addScaled p (!p) (s * 2 ^ (e - e)) (s * 2 ^ (e - e)) _ = _
    unfold addScaled
    rw [if_neg (by simp), if_neg (Nat.lt_irrefl _), if_neg (Nat.lt_irrefl _)]

/-- The number before a small positive one. -/
theorem sub_one_eq (whole : x.toInt? = some (k + 1)) (positive : 0 ≤ k) (small : k.natAbs < 2 ^ (53 : Nat)) :
    x - 1 = ofInt k := by
  have one : (1 : Number).toInt? = some 1 := toInt?_ofNat (by decide)
  by_cases zero : k = 0
  · subst zero
    obtain rfl := eq_of_toInt? whole one (by decide)
    exact sub_self_of_toInt? one
  · refine eq_of_toInt? ?_ (toInt?_ofInt small) zero
    have exact := toInt?_sub whole one (by rwa [Int.add_sub_cancel])
    rwa [Int.add_sub_cancel] at exact

theorem signed_mul_signed (p q : Bool) (m n : Nat) :
    signed p m * signed q n = signed (p != q) (m * n) := by
  cases p <;> cases q <;> simp [signed]

/-- A whole number but zero has a significand that is not small, so that its exponent cannot be much below that of
one. -/
private theorem least_exponent {s e m : Nat} (bound : s < 2 ^ (53 : Nat)) (positive : 0 < m)
    (units : s * 2 ^ e = m * unitsPerOne) : 1022 ≤ e := by
  by_contra low
  have least : s * 2 ^ e < 2 ^ bias := by
    calc s * 2 ^ e < 2 ^ (53 : Nat) * 2 ^ e := Nat.mul_lt_mul_of_pos_right bound (Nat.two_pow_pos e)
      _ = 2 ^ (53 + e) := (Nat.pow_add 2 53 e).symm
      _ ≤ 2 ^ bias := Nat.pow_le_pow_right (by decide) (by unfold bias; omega)
  have most : unitsPerOne ≤ m * unitsPerOne := Nat.le_mul_of_pos_left _ positive
  unfold unitsPerOne at units most
  omega

/-- Units of a product, where the exponents leave room for the bias to be taken off once. -/
private theorem product_units {s e t f m n : Nat} (first : s * 2 ^ e = m * unitsPerOne)
    (second : t * 2 ^ f = n * unitsPerOne) (room : bias ≤ e + f) :
    s * t * 2 ^ (e + f - bias) = m * n * unitsPerOne := by
  apply Nat.mul_right_cancel unitsPerOne_pos
  calc s * t * 2 ^ (e + f - bias) * unitsPerOne = s * t * (2 ^ (e + f - bias) * 2 ^ bias) := Nat.mul_assoc _ _ _
    _ = s * t * (2 ^ e * 2 ^ f) := by rw [← Nat.pow_add, ← Nat.pow_add, Nat.sub_add_cancel room]
    _ = s * 2 ^ e * (t * 2 ^ f) := Nat.mul_mul_mul_comm _ _ _ _
    _ = m * n * unitsPerOne * unitsPerOne := by rw [first, second, Nat.mul_mul_mul_comm, Nat.mul_assoc _ unitsPerOne]

/-- A product of whole numbers is the exact one, rounded. -/
theorem mul_eq_ofScaled (first : x.toInt? = some a) (second : y.toInt? = some b) :
    ∃ negative magnitude exponent, x * y = ofScaled negative magnitude (exponent : Nat) ∧
      magnitude * 2 ^ exponent = (a * b).natAbs * unitsPerOne ∧ signed negative (a * b).natAbs = a * b := by
  cases x with
  | nan => cases first
  | infinite negative => cases first
  | finite p s e canonical =>
    cases y with
    | nan => cases second
    | infinite negative => cases second
    | finite q t f other =>
      obtain ⟨signA, unitsA⟩ := units_of_finite first
      obtain ⟨signB, unitsB⟩ := units_of_finite second
      have sign : signed (p != q) (a * b).natAbs = a * b := by
        rw [Int.natAbs_mul, ← signed_mul_signed, signA, signB]
      have product : finite p s e canonical * finite q t f other = ofScaled (p != q) (s * t) (e + f - 1074 : Int) := rfl
      by_cases none : a = 0 ∨ b = 0
      · have zeros : s * t = 0 := by
          rcases none with rfl | rfl
          · rw [Int.natAbs_zero, Nat.zero_mul] at unitsA
            simp [(Nat.mul_eq_zero.mp unitsA).resolve_right (Nat.two_pow_pos e).ne']
          · rw [Int.natAbs_zero, Nat.zero_mul] at unitsB
            simp [(Nat.mul_eq_zero.mp unitsB).resolve_right (Nat.two_pow_pos f).ne']
        refine ⟨p != q, 0, 0, by rw [product, zeros, ofScaled_zero, ofScaled_zero], ?_, sign⟩
        rw [Int.mul_eq_zero.mpr none, Int.natAbs_zero, Nat.zero_mul, Nat.zero_mul]
      · rw [not_or] at none
        have low := least_exponent canonical.1 (Int.natAbs_pos.mpr none.1) unitsA
        have high := least_exponent other.1 (Int.natAbs_pos.mpr none.2) unitsB
        have room : bias ≤ e + f := by
          unfold bias
          omega
        have scale : (e + f - 1074 : Int) = (e + f - bias : Nat) := by
          unfold bias
          omega
        refine ⟨p != q, s * t, e + f - bias, by rw [product, scale], ?_, sign⟩
        rw [product_units unitsA unitsB room, Int.natAbs_mul]

/-- A small product of whole numbers is exact. -/
theorem toInt?_mul (first : x.toInt? = some a) (second : y.toInt? = some b) (small : (a * b).natAbs < 2 ^ (53 : Nat)) :
    (x * y).toInt? = some (a * b) := by
  obtain ⟨negative, magnitude, exponent, same, value, sign⟩ := mul_eq_ofScaled first second
  rw [same, ← sign]
  exact toInt?_ofScaled negative magnitude exponent small value

end Spreadsheet.Number
