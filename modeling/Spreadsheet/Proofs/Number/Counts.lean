import Spreadsheet.Proofs.Number.Sums

/-! Counts of any size. A sum or product of counts is rounded, and may be beyond all finite numbers, but it is whole, and
a sum is zero only if the exact one is. Up to `2 ^ 53`, all of whose predecessors are exact, sums are exact. -/
namespace Spreadsheet.Number
attribute [local instance (high)] instPowNat
variable {x y : Number} {a b : Int} {k least m magnitude exponent : Nat} {negative : Bool}

/-- Whole and not less than a bound, or beyond all finite numbers. -/
def AtLeast (x : Number) (least : Nat) : Prop :=
  x = infinite false ∨ ∃ k : Nat, x.toInt? = some (k : Int) ∧ least ≤ k

theorem atLeast_of_toInt? (whole : x.toInt? = some (k : Int)) : x.AtLeast k := .inr ⟨k, whole, Nat.le_refl k⟩

theorem AtLeast.mono (count : x.AtLeast k) (less : least ≤ k) : x.AtLeast least :=
  count.imp_right fun ⟨number, whole, bound⟩ => ⟨number, whole, less.trans bound⟩

/-- Only what is infinite is not a whole number. -/
theorem AtLeast.exists_toInt?_iff (count : x.AtLeast least) : (∃ k, x.toInt? = some k ∧ 0 ≤ k) ↔ x ≠ infinite false := by
  rcases count with rfl | ⟨k, whole, -⟩
  · constructor
    · rintro ⟨_, whole, -⟩
      cases whole
    · exact fun different => absurd rfl different
  · refine ⟨?_, fun _ => ⟨k, whole, Int.natCast_nonneg k⟩⟩
    rintro - rfl
    cases whole

/-- A count is rounded to a count, and to zero only if it is zero. -/
theorem atLeast_ofScaled (value : signed negative (magnitude * 2 ^ exponent) = ((m * unitsPerOne : Nat) : Int))
    (below : least ≤ m) (bit : least ≤ 1) : (ofScaled negative magnitude exponent).AtLeast least := by
  have size : magnitude * 2 ^ exponent = m * unitsPerOne := by
    rw [← natAbs_signed negative (magnitude * 2 ^ exponent), value, Int.natAbs_natCast]
  rcases Nat.eq_zero_or_pos m with rfl | positive
  · have none : magnitude = 0 := by simpa [(Nat.two_pow_pos exponent).ne'] using size
    rw [none, ofScaled_zero]
    exact .inr ⟨0, toInt?_zero_signed negative, below⟩
  · have some : 0 < m * unitsPerOne := Nat.mul_pos positive unitsPerOne_pos
    obtain rfl := eq_false_of_signed (show 0 < signed negative (magnitude * 2 ^ exponent) by omega)
    rcases ofScaled_cases magnitude exponent with infinite | ⟨v, units, half⟩
    · exact .inl infinite
    · have multiple : unitsPerOne ∣ magnitude * 2 ^ exponent := by
        rw [size]
        exact Nat.dvd_mul_left _ _
      obtain ⟨k, counted⟩ := Int.natCast_dvd_natCast.mp (dvd_of_ofScaled multiple units)
      rw [counted] at units half
      have more : 0 < k := by
        apply Nat.pos_of_ne_zero
        rintro rfl
        omega
      refine .inr ⟨k, toInt?_eq_some_iff.mpr ?_, by omega⟩
      rw [units, Nat.mul_comm, Int.natCast_mul]

theorem atLeast_ofNat (number : Nat) : (ofNat number).AtLeast (min number 1) := by
  have value : signed false (number * 2 ^ bias) = ((number * unitsPerOne : Nat) : Int) := if_neg (by decide)
  have rounded : (ofScaled false number (bias : Nat)).AtLeast (min number 1) :=
    atLeast_ofScaled value (Nat.min_le_left _ _) (Nat.min_le_right _ _)
  exact rounded

/-- A sum that is not negative is a count. -/
theorem atLeast_add (first : x.toInt? = some a) (second : y.toInt? = some b) (sum : a + b = m) (below : least ≤ m)
    (bit : least ≤ 1) : (x + y).AtLeast least := by
  obtain ⟨negative, magnitude, exponent, same, value⟩ :=
    add_eq_ofScaled (toInt?_eq_some_iff.mp first) (toInt?_eq_some_iff.mp second)
  rw [← Int.add_mul, sum] at value
  rw [same]
  exact atLeast_ofScaled (by rw [value, Int.natCast_mul]) below bit

theorem AtLeast.add (first : x.AtLeast k) (second : y.AtLeast m) (below : least ≤ k + m) (bit : least ≤ 1) :
    (x + y).AtLeast least := by
  rcases first with rfl | ⟨a, wholeA, low⟩
  · left
    rcases second with rfl | ⟨b, wholeB, -⟩
    · rfl
    · cases y with
      | nan => cases wholeB
      | infinite negative => cases wholeB
      | finite => rfl
  · rcases second with rfl | ⟨b, wholeB, high⟩
    · left
      cases x with
      | nan => cases wholeA
      | infinite negative => cases wholeA
      | finite => rfl
    · exact atLeast_add wholeA wholeB (Int.natCast_add a b).symm (by omega) bit

/-- Of a number from one on, the one before it is a count. -/
theorem AtLeast.sub_one (count : x.AtLeast 1) : (x - 1).AtLeast 0 := by
  rcases count with rfl | ⟨k, whole, positive⟩
  · exact .inl (by decide +kernel)
  · have one : (-(1 : Number)).toInt? = some (-1) := by decide +kernel
    exact atLeast_add (m := k - 1) whole one (by omega) (Nat.zero_le _) (by decide)

/-- A multiple of a count is a count. -/
theorem AtLeast.mul {factor : Nat} (count : x.AtLeast k) (times : y.toInt? = some (factor : Int))
    (positive : 0 < factor) : (x * y).AtLeast 0 := by
  rcases count with rfl | ⟨a, whole, -⟩
  · left
    cases y with
    | nan => cases times
    | infinite negative => cases times
    | finite negative s e canonical =>
      obtain ⟨sign, size⟩ := units_of_finite times
      have unsigned : negative = false := eq_false_of_signed (sign ▸ Int.natCast_pos.mpr positive)
      have some : s ≠ 0 := by
        rintro rfl
        rw [Nat.zero_mul, Int.natAbs_natCast] at size
        exact absurd size.symm (Nat.mul_pos positive unitsPerOne_pos).ne'
      change (if s = 0 then nan else infinite (false != negative)) = _
      rw [if_neg some, unsigned]
      rfl
  · obtain ⟨negative, magnitude, exponent, same, size, sign⟩ := mul_eq_ofScaled whole times
    rw [same]
    refine atLeast_ofScaled (m := a * factor) ?_ (Nat.zero_le _) (by decide)
    rw [size, signed_mul, sign, Int.natCast_mul, Int.natCast_mul]

/-- The first whole number that does not fit into a significand is even, so that it is exact as well. -/
theorem toInt?_ofScaled_of_le (negative : Bool) (magnitude exponent : Nat) (small : m ≤ 2 ^ (53 : Nat))
    (value : magnitude * 2 ^ exponent = m * unitsPerOne) :
    (ofScaled negative magnitude exponent).toInt? = some (signed negative m) := by
  rcases Nat.lt_or_eq_of_le small with less | rfl
  · exact toInt?_ofScaled negative magnitude exponent less value
  · rw [ofScaled_eq_finite (s := 2 ^ (52 : Nat)) (e := 1075) (by decide) 0 (Int.add_zero _)
      (by rw [value]; decide +kernel)]
    cases negative <;> decide +kernel

theorem toInt?_ofNat_of_le (small : m ≤ 2 ^ (53 : Nat)) : (ofNat m).toInt? = some (m : Int) :=
  toInt?_ofScaled_of_le false m bias small rfl

theorem toInt?_add_of_le (first : x.toInt? = some a) (second : y.toInt? = some b)
    (small : (a + b).natAbs ≤ 2 ^ (53 : Nat)) : (x + y).toInt? = some (a + b) := by
  obtain ⟨negative, magnitude, exponent, same, value⟩ :=
    add_eq_ofScaled (toInt?_eq_some_iff.mp first) (toInt?_eq_some_iff.mp second)
  rw [← Int.add_mul] at value
  have size : magnitude * 2 ^ exponent = (a + b).natAbs * unitsPerOne := by
    rw [← natAbs_signed negative (magnitude * 2 ^ exponent), value, Int.natAbs_mul, Int.natAbs_natCast]
  rw [size, signed_mul] at value
  rw [same, toInt?_ofScaled_of_le negative magnitude exponent small size]
  exact congrArg some (Int.eq_of_mul_eq_mul_right (by exact_mod_cast unitsPerOne_pos.ne') value)

theorem toInt?_mul_of_le (first : x.toInt? = some a) (second : y.toInt? = some b)
    (small : (a * b).natAbs ≤ 2 ^ (53 : Nat)) : (x * y).toInt? = some (a * b) := by
  obtain ⟨negative, magnitude, exponent, same, size, sign⟩ := mul_eq_ofScaled first second
  rw [same, toInt?_ofScaled_of_le negative magnitude exponent small size, sign]

/-- What comes after a number that fits into a significand is written as its numeral. -/
theorem text_add_one (small : k < 2 ^ (53 : Nat)) : (ofInt k + 1).text = Text.numeral (k + 1) := by
  have whole := toInt?_ofInt (k := k) small
  have one : (1 : Number).toInt? = some 1 := toInt?_ofNat (by decide)
  rcases Nat.lt_or_eq_of_le (Nat.succ_le_of_lt small) with less | last
  · exact text_of_toInt? (toInt?_add whole one (by omega)) less
  · obtain rfl : k = 2 ^ (53 : Nat) - 1 := by omega
    decide +kernel

end Spreadsheet.Number
