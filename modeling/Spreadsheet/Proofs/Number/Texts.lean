import Spreadsheet.Proofs.Number.Nearest
import Spreadsheet.Proofs.Number.Spelling
import Spreadsheet.Proofs.Number.Whole

/-! The text of a number tells which number it is. However it is laid out, it spells a decimal with the value of the
shortest digits, and these are near to no other number. Only the zeros have one text. -/
namespace Spreadsheet
attribute [local instance (high)] instPowNat

/-- The exact value of a decimal numeral. -/
def DecimalNumeral.value (numeral : DecimalNumeral) : Rat :=
  Text.digitsValue numeral.digits * 10 ^ (numeral.exponent - numeral.places)

/-- A text spells one decimal only. -/
theorem DecimalNumeral.Spells.unique {text : List Char} {numeral other : DecimalNumeral}
    (first : DecimalNumeral.Spells text numeral) (second : DecimalNumeral.Spells text other) : numeral = other := by
  have read := DecimalNumeral.read?_of_spells first
  rw [DecimalNumeral.read?_of_spells second] at read
  exact (Option.some.inj read).symm

namespace Text

theorem digitsValue_append_zeros (digits : List Char) (count : Nat) :
    digitsValue (digits ++ List.replicate count '0') = digitsValue digits * 10 ^ count := by
  rw [digitsValue, Nat.ofDigitChars_append, Nat.ofDigitChars_replicate_zero, Nat.mul_comm, digitsValue]

theorem digitsValue_zeros_append (count : Nat) (digits : List Char) :
    digitsValue (List.replicate count '0' ++ digits) = digitsValue digits := by
  rw [digitsValue, Nat.ofDigitChars_append, Nat.ofDigitChars_replicate_zero, Nat.mul_zero, digitsValue]

end Text

namespace Number

/-- The value of digits in scientific notation. -/
def Scientific.value (number : Scientific) : Rat :=
  Text.digitsValue number.digits * 10 ^ (number.exponent + 1 - number.digits.length)

/-- A power of ten that is shared by digits and their scale. -/
private theorem mul_ten_pow_mul_zpow (digits count : Nat) (scale : Int) :
    ((digits * 10 ^ count : Nat) : Rat) * 10 ^ scale = digits * 10 ^ (scale + count) := by
  rw [zpow_add₀ (by norm_num), zpow_natCast]
  push_cast
  ring

private theorem isDigit_of_mem_zeros {count : Nat} {c : Char} (member : c ∈ List.replicate count '0') :
    c.isDigit = true := List.eq_of_mem_replicate member ▸ rfl

/-- The exponent part of a text in scientific notation. -/
private theorem spellsExponent (exponent : Int) : DecimalNumeral.SpellsExponent
    ('e' :: (if exponent < 0 then '-' else '+') :: Text.numeral exponent.natAbs) exponent := by
  have decimal := Text.allDigits_numeral exponent.natAbs
  split
  · rename_i negative
    have part := DecimalNumeral.SpellsExponent.some (.inl rfl) .minus decimal
    rwa [Text.digitsValue_numeral, signed, if_pos rfl, ← Int.eq_neg_natAbs_of_nonpos negative.le] at part
  · rename_i positive
    have part := DecimalNumeral.SpellsExponent.some (.inl rfl) .plus decimal
    rwa [Text.digitsValue_numeral, signed, if_neg Bool.false_ne_true, Int.natAbs_of_nonneg (Int.not_lt.mp positive)]
      at part

/-- Digits with a point among them or in front of them, and no exponent part. -/
private theorem spells_point {whole decimals : List Char} (decimal : Text.allDigits (whole ++ decimals) = true) :
    DecimalNumeral.Spells (whole ++ '.' :: decimals) ⟨whole ++ decimals, decimals.length, 0⟩ := by
  have spelled := DecimalNumeral.Spells.point decimal .none
  rwa [List.append_nil] at spelled

/-- However digits are laid out, the text spells their value. -/
theorem Scientific.exists_spells {number : Scientific} (decimal : Text.allDigits number.digits = true) :
    ∃ numeral, DecimalNumeral.Spells number.text numeral ∧ numeral.value = number.value := by
  obtain ⟨digits, exponent⟩ := number
  obtain ⟨some, digital⟩ := Text.allDigits_iff.mp decimal
  have length : 0 < digits.length := List.length_pos_iff.mpr some
  unfold Scientific.text Scientific.value DecimalNumeral.value
  simp only at some digital length ⊢
  split
  · rename_i range
    split
    · rename_i short
      have whole : Text.allDigits (digits ++ List.replicate (exponent.toNat + 1 - digits.length) '0') = true :=
        Text.allDigits_iff.mpr ⟨by simp [some], List.forall_mem_append.mpr ⟨digital, fun _ => isDigit_of_mem_zeros⟩⟩
      have spelled := DecimalNumeral.Spells.whole whole .none
      rw [List.append_nil] at spelled
      refine ⟨_, spelled, ?_⟩
      rw [Text.digitsValue_append_zeros, mul_ten_pow_mul_zpow]
      dsimp only
      congr 2
      omega
    · rename_i long
      have joined := List.take_append_drop (exponent.toNat + 1) digits
      refine ⟨_, spells_point (joined.symm ▸ decimal), ?_⟩
      rw [joined, List.length_drop]
      dsimp only
      congr 2
      omega
  split
  · rename_i small
    have zeros : Text.allDigits (['0'] ++ (List.replicate (-exponent - 1).toNat '0' ++ digits)) = true := by
      refine Text.allDigits_iff.mpr ⟨by simp, ?_⟩
      simp only [List.forall_mem_append, List.forall_mem_singleton]
      exact ⟨rfl, fun _ => isDigit_of_mem_zeros, digital⟩
    refine ⟨_, spells_point zeros, ?_⟩
    have value := Text.digitsValue_zeros_append ((-exponent - 1).toNat + 1) digits
    rw [List.replicate_succ] at value
    rw [List.singleton_append, ← List.cons_append, value, List.length_append, List.length_replicate]
    dsimp only
    congr 2
    omega
  · cases digits with
    | nil => exact absurd rfl some
    | cons digit rest =>
      cases rest with
      | nil => exact ⟨_, .whole decimal (spellsExponent exponent), by simp⟩
      | cons next rest =>
        refine ⟨_, @DecimalNumeral.Spells.point [digit] (next :: rest) _ _ decimal (spellsExponent exponent), ?_⟩
        simp only [List.singleton_append, List.length_cons]
        congr 2
        omega

variable {s e t f : Nat}

/-- The digits that are kept of those that were found stand for the same value. -/
private theorem value_stripped (digits : List Char) (scale : Int) :
    Scientific.value ⟨(digits.reverse.dropWhile (· == '0')).reverse, scale + digits.length - 1⟩ =
      Text.digitsValue digits * 10 ^ scale := by
  have kept := stripped_append digits
  have lengths := congrArg List.length kept
  unfold Scientific.value
  dsimp only
  generalize (digits.reverse.dropWhile (· == '0')).reverse = some at *
  rw [List.length_append, List.length_replicate] at lengths
  conv_rhs => rw [← kept, Text.digitsValue_append_zeros, mul_ten_pow_mul_zpow]
  congr 2
  omega

/-- The shortest digits are near to the number that they are of. -/
theorem isNear_shortest (some : s ≠ 0) (canonical : s < 2 ^ (53 : Nat) ∧ e ≤ 2045 ∧ (e = 0 ∨ 2 ^ (52 : Nat) ≤ s)) :
    Text.allDigits (shortest s e).digits = true ∧ IsNear s e (shortest s e).value := by
  have ends := candidate?_isSome_of_canonical some canonical
  obtain ⟨_, reads⟩ := searchDigits_reads ends (floorLog10 (fraction s e).1 (fraction s e).2) 16 1 (by omega) (by omega)
  have near : IsNear s e (shortest s e).value := by
    have value : (shortest s e).value = _ := value_stripped (Text.numeral _) _
    rw [value, Text.digitsValue_numeral]
    exact readsBack_iff_isNear.mp reads
  refine ⟨Text.allDigits_iff.mpr ⟨?_, ?_⟩, near⟩
  · intro empty
    have nothing : (shortest s e).value = 0 := by
      rw [Scientific.value, empty, Text.digitsValue, Nat.ofDigitChars_nil, Nat.cast_zero, zero_mul]
    exact (near.pos some).ne' nothing
  · exact fun c member => Text.isDigit_of_mem_numeral (List.mem_reverse.mp
      ((List.dropWhile_suffix _).subset (List.mem_reverse.mp member)))

section text
variable {x y : Number} {body rest : List Char} {numeral other : DecimalNumeral}

/-- The text of a finite number: a sign if it is negative and not zero, and what spells a decimal that is near to it. -/
private theorem exists_text_eq (negative : Bool)
    (canonical : s < 2 ^ (53 : Nat) ∧ e ≤ 2045 ∧ (e = 0 ∨ 2 ^ (52 : Nat) ≤ s)) : ∃ body numeral,
    (finite negative s e canonical).text = (if negative = true ∧ s ≠ 0 then '-' :: body else body) ∧
      DecimalNumeral.Spells body numeral ∧ if s = 0 then numeral.value = 0 else IsNear s e numeral.value := by
  by_cases none : s = 0
  · have spelled := @DecimalNumeral.Spells.whole ['0'] [] 0 (by decide) .none
    refine ⟨['0'], ⟨['0'], 0, 0⟩, by simp [text, none], spelled, ?_⟩
    rw [if_pos none]
    simp [DecimalNumeral.value, Text.digitsValue, Nat.ofDigitChars]
  · obtain ⟨decimal, near⟩ := isNear_shortest none canonical
    obtain ⟨numeral, spelled, value⟩ := Scientific.exists_spells decimal
    refine ⟨_, numeral, ?_, spelled, ?_⟩
    · cases negative <;> simp [text, none]
    · rwa [if_neg none, value]

/-- A sign is told from what spells a decimal. -/
private theorem ne_minus_cons (spelled : DecimalNumeral.Spells body numeral) : body ≠ '-' :: rest := by
  obtain ⟨c, rest, rfl, first⟩ := spelled.head
  rintro ⟨⟩
  revert first
  decide

/-- Finite numbers with one text have one magnitude, and one sign unless they are zero. -/
private theorem eq_of_text_eq (negative other : Bool)
    (canonical : s < 2 ^ (53 : Nat) ∧ e ≤ 2045 ∧ (e = 0 ∨ 2 ^ (52 : Nat) ≤ s))
    (form : t < 2 ^ (53 : Nat) ∧ f ≤ 2045 ∧ (f = 0 ∨ 2 ^ (52 : Nat) ≤ t))
    (same : (finite negative s e canonical).text = (finite other t f form).text) :
    s = t ∧ (s ≠ 0 → e = f ∧ negative = other) := by
  obtain ⟨body, numeral, shown, spelled, value⟩ := exists_text_eq negative canonical
  obtain ⟨rest, decimal, shownOther, spelledOther, valueOther⟩ := exists_text_eq other form
  obtain ⟨signs, rfl⟩ : (negative = true ∧ s ≠ 0 ↔ other = true ∧ t ≠ 0) ∧ body = rest := by
    rw [shown, shownOther] at same
    split at same <;> split at same
    · exact ⟨iff_of_true ‹_› ‹_›, List.tail_eq_of_cons_eq same⟩
    · exact absurd same.symm (ne_minus_cons spelledOther)
    · exact absurd same (ne_minus_cons spelled)
    · exact ⟨iff_of_false ‹_› ‹_›, same⟩
  obtain rfl := spelled.unique spelledOther
  by_cases none : s = 0
  · by_cases nothing : t = 0
    · exact ⟨none.trans nothing.symm, fun some => absurd none some⟩
    · rw [if_pos none] at value
      rw [if_neg nothing] at valueOther
      exact absurd value (valueOther.pos nothing).ne'
  · by_cases nothing : t = 0
    · rw [if_neg none] at value
      rw [if_pos nothing] at valueOther
      exact absurd valueOther (value.pos none).ne'
    · rw [if_neg none] at value
      rw [if_neg nothing] at valueOther
      obtain ⟨significand, exponent⟩ := value.unique valueOther canonical form
      refine ⟨significand, fun _ => ⟨exponent, ?_⟩⟩
      cases negative <;> cases other <;> simp_all

/-- The text of a number has a letter of a word if it is not finite. -/
private theorem isFinite_iff_text : x.isFinite = true ↔ ∀ c ∈ x.text, c.isDigit = true ∨ c ∈ textMarks := by
  refine ⟨fun finite => (mem_text finite).2, fun plain => ?_⟩
  cases x with
  | nan => exact absurd (plain 'N' (by decide)) (by decide)
  | infinite negative => exact absurd (plain 'I' (by cases negative <;> decide)) (by decide)
  | finite negative s e canonical => rfl

/-- Numbers with one text are one number, or both are zero. -/
theorem text_eq_text_iff : x.text = y.text ↔ x = y ∨ x.isZero = true ∧ y.isZero = true := by
  constructor
  · intro same
    have finite : x.isFinite = true ↔ y.isFinite = true := by rw [isFinite_iff_text, isFinite_iff_text, same]
    cases x with
    | nan => cases y with
      | nan => exact .inl rfl
      | infinite other => exact absurd same (by cases other <;> decide)
      | finite other t f form => exact absurd (finite.mpr rfl) Bool.false_ne_true
    | infinite negative => cases y with
      | nan => exact absurd same (by cases negative <;> decide)
      | infinite other => cases negative <;> cases other <;> first | exact .inl rfl | exact absurd same (by decide)
      | finite other t f form => exact absurd (finite.mpr rfl) Bool.false_ne_true
    | finite negative s e canonical => cases y with
      | nan => exact absurd (finite.mp rfl) Bool.false_ne_true
      | infinite other => exact absurd (finite.mp rfl) Bool.false_ne_true
      | finite other t f form =>
        obtain ⟨rfl, more⟩ := eq_of_text_eq negative other canonical form same
        by_cases none : s = 0
        · exact .inr ⟨by simp [isZero, none], by simp [isZero, none]⟩
        · obtain ⟨rfl, rfl⟩ := more none
          exact .inl rfl
  · rintro (rfl | ⟨first, second⟩)
    · rfl
    · have zero {z : Number} (none : z.isZero = true) : z.text = ['0'] := by
        cases z with
        | nan => cases none
        | infinite negative => cases none
        | finite negative s e canonical => simp [text, beq_iff_eq.mp none]
      rw [zero first, zero second]

end text

end Number
end Spreadsheet
