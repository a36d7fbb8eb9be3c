import Spreadsheet.Proofs.Number.Quotient

/-! What fits into a significand is not rounded: a product or quotient that has the value of a number is this number, so
that one is neutral and whole numbers are their own whole parts. -/
namespace Spreadsheet.Number
attribute [local instance (high)] instPowNat

variable {x : Number} {negative : Bool} {s e n d : Nat}

private theorem log2_mul_two_pow (some : n ≠ 0) (k : Nat) : (n * 2 ^ k).log2 = n.log2 + k := by
  rw [Nat.log2_eq_iff (Nat.mul_ne_zero some (Nat.two_pow_pos k).ne'), Nat.pow_add, Nat.add_right_comm, Nat.pow_add]
  exact ⟨Nat.mul_le_mul_right _ (Nat.log2_self_le some),
    Nat.mul_lt_mul_of_pos_right Nat.lt_log2_self (Nat.two_pow_pos k)⟩

/-- The exponent of a canonical form is told by the bits of its significand. -/
private theorem exponent_of_canonical (canonical : s < 2 ^ (53 : Nat) ∧ e ≤ 2045 ∧ (e = 0 ∨ 2 ^ (52 : Nat) ≤ s))
    (some : s ≠ 0) {exponent : Int} (bits : exponent = s.log2 + e - 52) : exponent.toNat = e := by
  have short : s.log2 < 53 := (Nat.log2_lt some).mpr canonical.1
  rcases canonical.2.2 with rfl | full
  · omega
  · have long : 52 ≤ s.log2 := (Nat.le_log2 some).mpr full
    omega

private theorem ofSignificand_canonical (negative : Bool)
    (canonical : s < 2 ^ (53 : Nat) ∧ e ≤ 2045 ∧ (e = 0 ∨ 2 ^ (52 : Nat) ≤ s)) :
    ofSignificand negative s e = finite negative s e canonical := by
  rw [ofSignificand, dif_pos canonical]

private theorem zero_eq_finite (canonical : 0 < 2 ^ (53 : Nat) ∧ e ≤ 2045 ∧ (e = 0 ∨ 2 ^ (52 : Nat) ≤ 0)) :
    zero negative = finite negative 0 e canonical := by
  obtain rfl : e = 0 := by omega
  rfl

/-- A magnitude that has the value of a canonical form takes this form. The two are compared at a scale at which both are
whole. -/
theorem ofScaled_eq_finite (canonical : s < 2 ^ (53 : Nat) ∧ e ≤ 2045 ∧ (e = 0 ∨ 2 ^ (52 : Nat) ≤ s))
    {magnitude k : Nat} {exponent : Int} (scale : Nat) (scaled : exponent + scale = k)
    (same : magnitude * 2 ^ k = s * 2 ^ (e + scale)) :
    ofScaled negative magnitude exponent = finite negative s e canonical := by
  by_cases none : s = 0
  · subst none
    have zero : magnitude = 0 := by simpa [(Nat.two_pow_pos k).ne'] using same
    rw [zero, ofScaled_zero, zero_eq_finite]
  · have some : magnitude ≠ 0 := by
      rintro rfl
      simp [none] at same
    have bits : magnitude.log2 + k = s.log2 + (e + scale) := by
      rw [← log2_mul_two_pow some, same, log2_mul_two_pow none]
    have target : (exponent + magnitude.log2 - 52).toNat = e :=
      exponent_of_canonical canonical none (by omega)
    rw [ofScaled, if_neg some, target]
    dsimp only
    rw [← ofSignificand_canonical negative canonical]
    congr 1
    split
    · apply Nat.eq_of_mul_eq_mul_right (Nat.two_pow_pos (e + scale))
      rw [← same, Nat.mul_assoc, ← Nat.pow_add]
      congr 2
      omega
    · have multiple : magnitude = s * 2 ^ (e - exponent).toNat := by
        apply Nat.eq_of_mul_eq_mul_right (Nat.two_pow_pos k)
        rw [same, Nat.mul_assoc, ← Nat.pow_add]
        congr 2
        omega
      rw [multiple, nearestEven_mul s (Nat.two_pow_pos _)]

/-- A quotient with the value of a scaled significand, cleared of the powers of two that the two sides share. -/
private theorem mul_two_pow_sub {b : Nat} (same : n * 2 ^ b = s * 2 ^ e * d) :
    n * 2 ^ (b - e) = s * (d * 2 ^ (e - b)) := by
  apply Nat.eq_of_mul_eq_mul_right (Nat.two_pow_pos (min e b))
  calc n * 2 ^ (b - e) * 2 ^ min e b = n * 2 ^ b := by
        rw [Nat.mul_assoc, ← Nat.pow_add]
        congr 2
        omega
    _ = s * d * 2 ^ e := by rw [same, Nat.mul_right_comm]
    _ = s * (d * 2 ^ (e - b)) * 2 ^ min e b := by
        rw [Nat.mul_assoc s, Nat.mul_assoc s, Nat.mul_assoc d, ← Nat.pow_add]
        congr 3
        omega

/-- The logarithm of a quotient that is a scaled significand. -/
theorem floorLog2_add {b : Nat} (some : s ≠ 0) (positive : 0 < d) (same : n * 2 ^ b = s * 2 ^ e * d) :
    floorLog2 n d + b = s.log2 + e := by
  have dividend : 0 < n := by
    apply Nat.pos_of_ne_zero
    rintro rfl
    simp [some, positive.ne'] at same
  obtain ⟨i, j, logarithm⟩ : ∃ i j : Nat, floorLog2 n d = (i : Int) - j :=
    ⟨(floorLog2 n d).toNat, (-floorLog2 n d).toNat, by omega⟩
  obtain ⟨low, high⟩ := floorLog2_spec dividend positive logarithm
  have value (k : Nat) : 2 ^ k * n * 2 ^ b = s * 2 ^ (k + e) * d := by
    rw [Nat.mul_assoc, same, Nat.pow_add]
    ring
  have bits : (s * 2 ^ (j + e)).log2 = i + b := by
    rw [Nat.log2_eq_iff (Nat.mul_ne_zero some (Nat.two_pow_pos _).ne')]
    constructor
    · apply Nat.le_of_mul_le_mul_right _ positive
      rw [← value, Nat.pow_add, Nat.mul_right_comm]
      exact Nat.mul_le_mul_right _ low
    · apply Nat.lt_of_mul_lt_mul_right (a := d)
      rw [← value, Nat.add_right_comm, Nat.pow_add, Nat.mul_right_comm _ _ d]
      exact Nat.mul_lt_mul_of_pos_right high (Nat.two_pow_pos b)
  rw [log2_mul_two_pow some] at bits
  omega

/-- A quotient that has the value of a canonical form takes this form. -/
theorem ofRatio_eq_finite (canonical : s < 2 ^ (53 : Nat) ∧ e ≤ 2045 ∧ (e = 0 ∨ 2 ^ (52 : Nat) ≤ s)) (positive : 0 < d)
    (same : n * unitsPerOne = s * 2 ^ e * d) : ofRatio negative n d = finite negative s e canonical := by
  by_cases none : s = 0
  · subst none
    have zero : n = 0 := by simpa [unitsPerOne_pos.ne'] using same
    rw [ofRatio, if_pos zero, zero_eq_finite]
  · have some : n ≠ 0 := by
      rintro rfl
      simp [none, positive.ne'] at same
    have logarithm := floorLog2_add none positive same
    have multiple := mul_two_pow_sub same
    have target : (floorLog2 n d + 1022).toNat = e := by
      refine exponent_of_canonical canonical none ?_
      unfold bias at logarithm
      omega
    rw [ofRatio, if_neg some, target]
    dsimp only
    rw [← bias, multiple, nearestEven_mul s (Nat.mul_pos positive (Nat.two_pow_pos _)), ofSignificand_canonical]

/-- The form of one. -/
private theorem one_eq : (1 : Number) = finite false (2 ^ (52 : Nat)) 1022 (by decide) := by decide +kernel

theorem div_one (x : Number) : x / 1 = x := by
  rw [one_eq]
  cases x with
  | nan => rfl
  | infinite negative => exact congrArg infinite (Bool.bne_false negative)
  | finite negative s e canonical =>
    change div _ _ = _
    rw [div, if_neg (by decide), Bool.bne_false]
    refine ofRatio_eq_finite canonical (Nat.mul_pos (by decide) (Nat.two_pow_pos _)) ?_
    rw [unitsPerOne, Nat.mul_assoc, Nat.mul_assoc, ← Nat.pow_add, ← Nat.pow_add, ← Nat.pow_add]
    refine congrArg (s * 2 ^ ·) ?_
    unfold bias
    omega

theorem mul_one (x : Number) : x * 1 = x := by
  rw [one_eq]
  cases x with
  | nan => rfl
  | infinite negative =>
    change mul _ _ = _
    rw [mul, if_neg (by decide), Bool.bne_false]
  | finite negative s e canonical =>
    change ofScaled (negative != false) (s * 2 ^ (52 : Nat)) (e + 1022 - 1074 : Int) = _
    rw [Bool.bne_false]
    refine ofScaled_eq_finite canonical 52 (k := e) (by omega) ?_
    rw [Nat.mul_assoc, ← Nat.pow_add, Nat.add_comm 52]

/-- A whole number has no fraction. -/
theorem fraction_of_toInt? {canonical : s < 2 ^ (53 : Nat) ∧ e ≤ 2045 ∧ (e = 0 ∨ 2 ^ (52 : Nat) ≤ s)} {k : Int}
    (whole : (finite negative s e canonical).toInt? = some k) :
    (fraction s e).1 = k.natAbs * (fraction s e).2 ∧ k.natAbs * 2 ^ bias = s * 2 ^ e := by
  obtain ⟨_, units⟩ := units_of_finite whole
  refine ⟨Nat.eq_of_mul_eq_mul_right unitsPerOne_pos ?_, units.symm⟩
  rw [fraction_units, units, Nat.mul_right_comm]

/-- A whole number is the nearest one to itself. -/
theorem round_of_toInt? {k : Int} (whole : x.toInt? = some k) : x.round = x := by
  cases x with
  | nan => rfl
  | infinite negative => rfl
  | finite negative s e canonical =>
    obtain ⟨multiple, value⟩ := fraction_of_toInt? whole
    have positive := fraction_pos s e
    simp only [round]
    generalize (fraction s e).1 = n at *
    generalize (fraction s e).2 = d at *
    subst multiple
    have up : (2 * (k.natAbs * d) + d) / (2 * d) = k.natAbs := by
      rw [Nat.div_eq_iff (by omega), Nat.mul_left_comm]
      omega
    have down : (2 * (k.natAbs * d) + (d - 1)) / (2 * d) = k.natAbs := by
      rw [Nat.div_eq_iff (by omega), Nat.mul_left_comm]
      omega
    rw [up, down, ite_self]
    exact ofScaled_eq_finite canonical 0 (k := bias) rfl value

/-- A whole number is the greatest one that is not above it. -/
theorem floor_of_toInt? {k : Int} (whole : x.toInt? = some k) : x.floor = x := by
  cases x with
  | nan => rfl
  | infinite negative => rfl
  | finite negative s e canonical =>
    obtain ⟨multiple, value⟩ := fraction_of_toInt? whole
    have positive := fraction_pos s e
    simp only [floor]
    generalize (fraction s e).1 = n at *
    generalize (fraction s e).2 = d at *
    subst multiple
    have down : k.natAbs * d / d = k.natAbs := Nat.mul_div_cancel _ positive
    have up : (k.natAbs * d + (d - 1)) / d = k.natAbs := by
      rw [Nat.div_eq_iff positive]
      omega
    rw [up, down, ite_self]
    exact ofScaled_eq_finite canonical 0 (k := bias) rfl value

/-- A quotient that comes out even, and small, is not rounded. -/
theorem toInt?_ofRatio {k : Nat} (positive : 0 < d) (small : k < 2 ^ (53 : Nat)) :
    (ofRatio negative (k * d) d).toInt? = some (signed negative k) := by
  have plain := toInt?_ofNat small
  cases form : ofNat k with
  | nan => simp [form, toInt?] at plain
  | infinite negative => simp [form, toInt?] at plain
  | finite unsigned s e canonical =>
    rw [form] at plain
    obtain ⟨_, units⟩ := units_of_finite plain
    rw [Int.natAbs_natCast] at units
    rw [ofRatio_eq_finite canonical positive (by rw [units, Nat.mul_right_comm]), toInt?_eq_some_iff, ← signed_mul,
      ← units]
    rfl

end Spreadsheet.Number
