import Spreadsheet.Proofs.Number.Texts

/-! Whole numbers with a sign. Those of less than 54 bits are told by their texts: a text reads back as the number, and
no other whole number, however large, is rounded to one of them. -/
namespace Spreadsheet.Number
attribute [local instance (high)] instPowNat

variable {n : Nat} {k m : Int} {x : Number}

theorem ofInt_natCast (n : Nat) : ofInt n = ofNat n := by
  have sign : decide ((n : Int) < 0) = false := by simp
  rw [ofInt, ofNat, sign, Int.natAbs_natCast]

theorem isZero_iff : x.isZero = true ↔ x.toInt? = some 0 := by
  rw [toInt?_eq_some_iff, Int.zero_mul]
  cases x with
  | nan => simp [isZero, units?]
  | infinite negative => simp [isZero, units?]
  | finite negative s e canonical =>
    have power := Nat.two_pow_pos e
    cases negative <;> simp [isZero, units?, signed]

/-- What stands behind a minus sign is a decimal, if it is not the word for infinity. -/
theorem ofTrimmed?_minus {rest : List Char} (word : rest ≠ "Infinity".toList) :
    ofTrimmed? ('-' :: rest) = ofDecimal? ('-' :: rest) := by
  have negative : '-' :: rest ≠ "-Infinity".toList := fun same => word (List.cons.inj same).2
  have others : ¬('-' :: rest = "Infinity".toList ∨ '-' :: rest = "+Infinity".toList) := by
    rintro (same | same) <;> cases (List.cons.inj same).1
  unfold ofTrimmed?
  split
  · rename_i nothing
    cases nothing
  · rename_i digit
    cases digit
  · rw [if_neg others, if_neg negative]

section negative
variable (positive : n ≠ 0) (small : n < 2 ^ (53 : Nat))
include positive small

/-- A negative number is written as a minus sign and its magnitude. -/
theorem text_ofInt_neg : (ofInt (-n)).text = '-' :: Text.numeral n := by
  have written := text_ofNat small
  have whole := toInt?_ofNat small
  have opposite : ofInt (-n) = -ofNat n := by
    refine eq_of_toInt? (toInt?_ofInt ?_) (toInt?_neg whole) ?_
    · rwa [Int.natAbs_neg, Int.natAbs_natCast]
    · omega
  rw [opposite]
  cases form : ofNat n with
  | nan => simp [form, toInt?] at whole
  | infinite negative => simp [form, toInt?] at whole
  | finite negative s e canonical =>
    rw [form] at whole written
    obtain ⟨sign, units⟩ := units_of_finite whole
    have significant : s ≠ 0 := by
      rintro rfl
      rw [Nat.zero_mul, Int.natAbs_natCast] at units
      exact Nat.mul_ne_zero positive unitsPerOne_pos.ne' units.symm
    cases negative with
    | true =>
      simp only [signed, Int.natAbs_natCast, ↓reduceIte] at sign
      omega
    | false =>
      change (finite true s e canonical).text = _
      simp only [text, significant, ↓reduceIte, Bool.false_eq_true] at written ⊢
      rw [written]

theorem ofText_minus_numeral : ofText ('-' :: Text.numeral n) = ofInt (-n) := by
  have decimal := Text.allDigits_numeral n
  have trimmed : Text.trim ('-' :: Text.numeral n) = '-' :: Text.numeral n := by
    refine Text.trim_eq_self (fun c member => ?_) fun c member => ?_
    · cases member
      rfl
    · obtain ⟨first, rest, form, -⟩ := Text.exists_cons_of_allDigits decimal
      rw [form, List.getLast?_cons_cons, ← form] at member
      have digit := Text.isDigit_of_mem_numeral (List.mem_of_getLast? member)
      exact Text.not_isBlank_of_isAlphanum (by simp [Char.isAlphanum, digit])
  have read : DecimalNumeral.read? (Text.numeral n) = some ⟨Text.numeral n, 0, 0⟩ := by
    have spelled := DecimalNumeral.Spells.whole decimal .none
    rw [List.append_nil] at spelled
    exact DecimalNumeral.read?_of_spells spelled
  have rounded : DecimalNumeral.toNumber true ⟨Text.numeral n, 0, 0⟩ = ofRatio true (n * 1) 1 := by
    simp only [DecimalNumeral.toNumber, Text.digitsValue_numeral]
    rw [if_neg positive, if_neg (by decide), if_neg (by omega)]
    simp
  have exact : (ofRatio true (n * 1) 1).toInt? = some (-(n : Int)) := toInt?_ofRatio Nat.one_pos small
  have word : Text.numeral n ≠ "Infinity".toList := fun same => by
    rw [same] at decimal
    cases decimal
  have signed : ofDecimal? ('-' :: Text.numeral n) = some (ofRatio true (n * 1) 1) := by
    rw [ofDecimal?, read, Option.map_some, rounded]
  rw [ofText, trimmed, ofTrimmed?_minus word, signed, Option.getD_some]
  refine eq_of_toInt? exact (toInt?_ofInt ?_) (by omega)
  rwa [Int.natAbs_neg, Int.natAbs_natCast]

end negative

/-- The text of a whole number reads back as it. -/
theorem ofText_text_ofInt (small : k.natAbs < 2 ^ (53 : Nat)) : ofText (ofInt k).text = ofInt k := by
  obtain ⟨n, rfl | rfl⟩ := k.eq_nat_or_neg
  · rw [Int.natAbs_natCast] at small
    rw [ofInt_natCast, text_ofNat small, ofText_numeral small]
  · rw [Int.natAbs_neg, Int.natAbs_natCast] at small
    rcases Nat.eq_zero_or_pos n with rfl | positive
    · decide +kernel
    · rw [text_ofInt_neg positive.ne' small, ofText_minus_numeral positive.ne' small]

/-- A magnitude of 54 bits is halved and rounded. -/
private theorem ofScaled_of_log2 (negative : Bool) {magnitude : Nat} (bits : magnitude.log2 = 53) :
    ofScaled negative magnitude bias = ofSignificand negative (nearestEven magnitude 2) (bias + 1) := by
  have positive : magnitude ≠ 0 := by
    rintro rfl
    cases bits
  have target : ((bias : Int) + 53 - 52).toNat = bias + 1 := by omega
  unfold ofScaled
  simp only [positive, ↓reduceIte, bits, Nat.cast_ofNat, target]
  rw [if_neg (by omega), show (((bias + 1 : Nat) : Int) - bias).toNat = 1 by omega, Nat.pow_one]

/-- Rounding brings no large whole number below 54 bits. -/
theorem eq_of_toInt?_ofInt (whole : (ofInt k).toInt? = some m) (small : m.natAbs < 2 ^ (53 : Nat)) : k = m := by
  by_cases exact : k.natAbs < 2 ^ (53 : Nat)
  · exact Option.some.inj ((toInt?_ofInt exact).symm.trans whole)
  exfalso
  rw [toInt?_eq_some_iff] at whole
  have scaled : (ofScaled (k < 0) k.natAbs bias).units? = some (m * unitsPerOne) := whole
  -- At most half of the magnitude is lost, so that it has one bit too many.
  have half : k.natAbs * unitsPerOne ≤ 2 * m.natAbs * unitsPerOne := by
    have kept := magnitude_le_of_ofScaled scaled
    rwa [Int.natAbs_mul, Int.natAbs_natCast, ← Nat.mul_assoc] at kept
  have bound := Nat.le_of_mul_le_mul_right half unitsPerOne_pos
  have bits : k.natAbs.log2 = 53 := (Nat.log2_eq_iff (by omega)).mpr ⟨by omega, by omega⟩
  rw [ofScaled_of_log2 _ bits] at scaled
  have size := congrArg Int.natAbs (units_of_ofSignificand scaled)
  have power : 2 ^ (bias + 1) = 2 * unitsPerOne := by rw [unitsPerOne, Nat.pow_succ']
  rw [Int.natAbs_mul, Int.natAbs_natCast, natAbs_signed, power, ← Nat.mul_assoc] at size
  have even := Nat.mul_right_cancel unitsPerOne_pos size
  have near := (nearestEven_near k.natAbs (d := 2) (by decide)).1
  omega

/-- A number is written without an underscore. -/
theorem underscore_not_mem_text : '_' ∉ x.text := by
  intro member
  cases x with
  | nan => exact absurd member (by decide)
  | infinite negative => cases negative <;> exact absurd member (by decide)
  | finite negative s e canonical =>
    exact absurd ((mem_text rfl).2 '_' member) (by decide)

/-- The text of a whole number is that of the numbers that are the whole number. -/
theorem text_eq_text_ofInt_iff (small : k.natAbs < 2 ^ (53 : Nat)) : x.text = (ofInt k).text ↔ x.toInt? = some k := by
  have exact := toInt?_ofInt small
  rw [text_eq_text_iff]
  constructor
  · rintro (rfl | ⟨zero, none⟩)
    · exact exact
    · rw [isZero_iff] at zero none
      rw [zero, ← none, exact]
  · intro whole
    by_cases zero : k = 0
    · subst zero
      exact .inr ⟨isZero_iff.mpr whole, isZero_iff.mpr exact⟩
    · exact .inl (eq_of_toInt? whole exact zero)

end Spreadsheet.Number
