import Spreadsheet.Number.Fixed
import Spreadsheet.Proofs.Number.Decimals
import Spreadsheet.Proofs.Number.Division
import Spreadsheet.Proofs.Number.Magnitude

/-! Whole numbers written with decimals. The point is moved by an exponent part after the text of the number and moved
back the same way: up to twenty-one digits the text in between has no exponent part of its own, and nothing is lost. -/
namespace Spreadsheet
attribute [local instance (high)] instPowNat

/-- An exponent of no or one sign is read back. -/
theorem DecimalNumeral.exponent?_numeral (negative : Bool) (places : Nat) :
    exponent? ('e' :: if negative then '-' :: Text.numeral places else Text.numeral places) =
      some (Number.signed negative places) := by
  have digits := Text.allDigits_numeral places
  have value := Text.digitsValue_numeral places
  cases negative with
  | true => simp [exponent?, digits, value, Number.signed]
  | false =>
    obtain ⟨c, rest, form, digit⟩ := Text.exists_cons_of_allDigits digits
    simp only [Bool.false_eq_true, ↓reduceIte, Number.signed, form] at digits value ⊢
    unfold exponent?
    dsimp only
    rw [if_neg (by decide)]
    split
    · rename_i minus
      cases minus
      cases digit
    · rename_i plus
      cases plus
      cases digit
    · rw [if_pos digits, value]

namespace Number
variable {x : Number} {n value places : Nat}

/-- A point moved in the text of a whole number. -/
theorem shiftPoint_of_text (text : x.text = Text.numeral value) (negative : Bool) (near : places ≤ maxPlaces) :
    x.shiftPoint negative places =
      if negative then ofRatio false value (10 ^ places) else ofRatio false (value * 10 ^ places) 1 := by
  unfold maxPlaces at near
  have exponent := DecimalNumeral.exponent?_numeral negative places
  unfold shiftPoint
  rw [text, ofText_numeral_append _ (by simp), exponent]
  · simp only [Option.map_some, Option.getD_some, DecimalNumeral.toNumber, Text.digitsValue_numeral]
    by_cases none : value = 0
    · simp [none, ofRatio]
    · rw [if_neg none]
      cases negative <;> simp only [signed, Bool.false_eq_true, ↓reduceIte] <;>
        rw [if_neg (by omega), if_neg (by omega)]
      · simp
      · simp
  · intro c member
    have last : c ∈ (Text.numeral places).getLast? := by
      obtain ⟨first, rest, form, -⟩ := Text.exists_cons_of_allDigits (Text.allDigits_numeral places)
      rw [form] at member ⊢
      cases negative <;> simpa only [Bool.false_eq_true, ↓reduceIte, List.getLast?_cons_cons] using member
    exact Text.not_isBlank_of_isAlphanum
      (by simp [Char.isAlphanum, Text.isDigit_of_mem_numeral (List.mem_of_getLast? last)])

/-- The nearest number to a whole number is whole. -/
theorem exists_toInt?_ofRatio_one (range : n < 2 ^ (80 : Nat)) : ∃ k, (ofRatio false n 1).toInt? = some k := by
  rcases Nat.lt_or_ge n (2 ^ (53 : Nat)) with small | large
  · rw [ofRatio_one small]
    exact ⟨n, toInt?_ofNat small⟩
  · obtain ⟨s, k, canonical, form, -, -⟩ := exists_ofRatio_one large range
    rw [form]
    refine ⟨signed false (s * 2 ^ k), ?_⟩
    simp only [toInt?, fraction, Nat.add_sub_cancel_left, show 1074 - (1074 + k) = 0 by omega, Nat.pow_zero,
      Nat.mod_one, ↓reduceIte, Nat.div_one]

/-- Rounding to places finds the number itself where its digits with those of the places are no more than
twenty-one. -/
theorem round_shifted (whole : x.toInt? = some (n : Int)) (short : n < 10 ^ (15 : Nat)) (near : places ≤ maxPlaces)
    (range : n * 10 ^ places < 10 ^ (21 : Nat)) :
    ((x.shiftPoint false places).round.shiftPoint true places).toInt? = some (n : Int) := by
  have small : n < 2 ^ (53 : Nat) := short.trans (by decide)
  obtain ⟨k, shifted⟩ := exists_toInt?_ofRatio_one (n := n * 10 ^ places) (range.trans (by decide))
  rw [shiftPoint_of_text (text_of_toInt? whole small) false near, if_neg (by decide), round_of_toInt? shifted,
    shiftPoint_of_text (text_ofRatio_one short range) true near, if_pos rfl,
    toInt?_ofRatio (Nat.pow_pos (by decide)) small]
  rfl

/-- The digits of a whole number, and a zero in each place. -/
theorem withPlaces_mul_ten_pow (positive : 0 < places) :
    withPlaces places (n * 10 ^ places) = Text.numeral n ++ '.' :: List.replicate places '0' := by
  have digits : Text.padLeft (places + 1) '0' (Text.numeral (n * 10 ^ places)) =
      Text.numeral n ++ List.replicate places '0' := by
    unfold Text.padLeft
    rcases Nat.eq_zero_or_pos n with rfl | some
    · rw [Nat.zero_mul, Text.numeral, Nat.toDigits_zero, ← List.replicate_succ']
      exact List.replicate_succ
    · have first : 0 < (Text.numeral n).length := List.length_pos_iff.mpr (Text.numeral_ne_nil n)
      rw [Text.numeral_mul_ten_pow some, List.length_append, List.length_replicate,
        show places + 1 - ((Text.numeral n).length + places) = 0 by omega]
      rfl
  unfold withPlaces
  simp only [digits, if_neg positive.ne', List.length_append, List.length_replicate, Nat.add_sub_cancel,
    List.take_left', List.drop_left']

/-- The exact text of a whole number. -/
theorem exactFixed?_of_toInt? (whole : x.toInt? = some (n : Int)) (short : n < 10 ^ (21 : Nat))
    (near : places ≤ maxPlaces) : x.exactFixed? places = some (withPlaces places (n * 10 ^ places)) := by
  cases x with
  | nan => cases whole
  | infinite negative => cases whole
  | finite negative s e canonical =>
    obtain ⟨sign, value⟩ := units_of_finite whole
    obtain ⟨multiple, -⟩ := fraction_of_toInt? whole
    have positive := fraction_pos s e
    rw [Int.natAbs_natCast] at sign value multiple
    have plain : (negative && s != 0) = false := by
      cases negative with
      | false => rfl
      | true =>
        have none : n = 0 := by
          simp only [signed, ↓reduceIte] at sign
          omega
        simpa [none] using value
    unfold exactFixed? maxPlaces at *
    rw [if_neg (by omega)]
    simp only [multiple, plain, Bool.false_eq_true, ↓reduceIte]
    generalize (fraction s e).2 = d at *
    have below : ¬10 ^ (21 : Nat) * d ≤ n * d := by
      rw [Nat.mul_le_mul_right_iff positive]
      omega
    have rounded : (2 * (n * d) * 10 ^ places + d) / (2 * d) = n * 10 ^ places := by
      rw [Nat.div_eq_iff (by omega), show n * 10 ^ places * (2 * d) = 2 * (n * d) * 10 ^ places by ring]
      omega
    rw [if_neg below, rounded]

theorem isFinite_of_toInt? (whole : x.toInt? = some (n : Int)) : x.isFinite = true ∧ ¬x < 0 := by
  have units := toInt?_eq_some_iff.mp whole
  refine ⟨isFinite_iff.mpr ⟨_, units⟩, ?_⟩
  rw [neg_iff_units units, Int.not_lt]
  exact Int.mul_nonneg (Int.natCast_nonneg n) (Int.natCast_nonneg _)

private theorem not_le_of_lt {bound : Number} {b : Nat} (whole : x.toInt? = some (n : Int))
    (limit : bound.toInt? = some (b : Int)) (less : n < b) : ¬bound ≤ x := by
  rw [le_iff_units (toInt?_eq_some_iff.mp limit) (toInt?_eq_some_iff.mp whole), Int.not_le]
  exact Int.mul_lt_mul_of_pos_right (by omega) (by exact_mod_cast unitsPerOne_pos)

private theorem great_limit : (1000000000000000000000 : Number).toInt? = some ((10 ^ (21 : Nat) : Nat) : Int) := by
  decide +kernel

private theorem long_limit : (1000000000000000 : Number).toInt? = some ((10 ^ (15 : Nat) : Nat) : Int) := by
  decide +kernel

private theorem contains_e_numeral (n : Nat) : (Text.numeral n).contains 'e' = false := by
  rw [← Bool.not_eq_true, List.contains_iff_mem]
  exact fun letter => absurd (Text.isDigit_of_mem_numeral letter) (by decide)

/-- A whole number of fifteen digits has its own digits before the point and zeros after it, as long as these are
twenty-one digits at most. -/
theorem fixed?_of_toInt? (whole : x.toInt? = some (n : Int)) (short : n < 10 ^ (15 : Nat)) (positive : 0 < places)
    (near : places ≤ maxPlaces) (range : n * 10 ^ places < 10 ^ (21 : Nat)) :
    x.fixed? places = some (Text.numeral n ++ '.' :: List.replicate places '0') := by
  have text := text_of_toInt? whole (short.trans (by decide))
  have great := not_le_of_lt whole great_limit (short.trans (by decide))
  have long := not_le_of_lt whole long_limit short
  unfold fixed?
  rw [if_neg great, text, contains_e_numeral, Bool.false_or, if_neg (by simpa using long),
    exactFixed?_of_toInt? (round_shifted whole short near range) (short.trans (by decide)) near,
    withPlaces_mul_ten_pow positive]

/-- Without decimals a whole number has its own digits. Those of fifteen digits are rounded by way of their text, and
greater ones are written as they are. -/
theorem fixed?_zero_of_toInt? (whole : x.toInt? = some (n : Int)) (small : n < 2 ^ (53 : Nat)) :
    x.fixed? 0 = some (Text.numeral n) := by
  have digits (y : Number) (same : y.toInt? = some (n : Int)) : y.exactFixed? 0 = some (Text.numeral n) := by
    have long := List.length_pos_iff.mpr (Text.numeral_ne_nil n)
    rw [exactFixed?_of_toInt? same (small.trans (by decide)) (Nat.zero_le _), Nat.pow_zero, Nat.mul_one, withPlaces,
      if_pos rfl, Text.padLeft, show 0 + 1 - (Text.numeral n).length = 0 by omega]
    rfl
  have great := not_le_of_lt whole great_limit (small.trans (by decide))
  unfold fixed?
  rw [if_neg great]
  split
  · exact digits x whole
  · rename_i plain
    have short : n < 10 ^ (15 : Nat) := by
      by_contra long
      refine plain (Bool.or_eq_true_iff.mpr (.inr (decide_eq_true ?_)))
      rw [le_iff_units (toInt?_eq_some_iff.mp long_limit) (toInt?_eq_some_iff.mp whole)]
      exact Int.mul_le_mul_of_nonneg_right (by omega) (Int.natCast_nonneg _)
    exact digits _ (round_shifted whole short (Nat.zero_le _) (by omega))

/-- A finite number can be written without decimals: one that is too great to be rounded is whole. -/
theorem exists_fixed?_zero (finite : x.isFinite = true) : ∃ text, x.fixed? 0 = some text := by
  have exact (y : Number) : ∃ text, y.exactFixed? 0 = some text := by
    unfold exactFixed?
    rw [if_neg (by decide)]
    split
    · dsimp only
      split <;> exact ⟨_, rfl⟩
    · exact ⟨_, rfl⟩
  unfold fixed?
  split
  · rename_i great
    cases x with
    | nan => cases finite
    | infinite negative => cases finite
    | finite negative s e canonical =>
      rw [le_iff_units (toInt?_eq_some_iff.mp great_limit) rfl] at great
      have unsigned : signed negative (s * 2 ^ e) ≤ ((s * 2 ^ e : Nat) : Int) := by
        generalize s * 2 ^ e = magnitude
        cases negative <;> simp only [signed, Bool.false_eq_true, ↓reduceIte] <;> omega
      have units : 10 ^ (21 : Nat) * unitsPerOne ≤ s * 2 ^ e := by
        rw [← Int.ofNat_le, Int.natCast_mul]
        exact great.trans unsigned
      have late : 1074 ≤ e := by
        by_contra early
        have less : 10 ^ (21 : Nat) * unitsPerOne < 2 ^ (53 : Nat) * unitsPerOne :=
          calc 10 ^ (21 : Nat) * unitsPerOne ≤ s * 2 ^ e := units
            _ < 2 ^ (53 : Nat) * 2 ^ e := Nat.mul_lt_mul_of_pos_right canonical.1 (Nat.two_pow_pos e)
            _ ≤ 2 ^ (53 : Nat) * unitsPerOne :=
              Nat.mul_le_mul_left _ (Nat.pow_le_pow_right (by decide) (Nat.le_of_not_le early))
        exact absurd (Nat.lt_of_mul_lt_mul_right less) (by decide)
      simp only [toInt?, fraction, show 1074 - e = 0 by omega, Nat.pow_zero, Nat.mod_one, ↓reduceIte, Option.map_some]
      exact ⟨_, rfl⟩
  · split <;> exact exact _

end Number
end Spreadsheet
