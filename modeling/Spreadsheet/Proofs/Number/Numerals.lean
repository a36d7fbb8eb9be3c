import Mathlib.Data.List.TakeDrop
import Mathlib.Data.List.TakeWhile
import Spreadsheet.Number.Reading
import Spreadsheet.Number.Shortest
import Spreadsheet.Proofs.Number.Rounding

/-! Whole numbers of less than 54 bits as text: their text is the plain decimal numeral, and the numeral reads back as
the number. -/
namespace Spreadsheet

namespace Text

/-- A factor of ten is a zero at the end. -/
theorem numeral_mul_ten_pow {value : Nat} (positive : 0 < value) (count : Nat) :
    numeral (value * 10 ^ count) = numeral value ++ List.replicate count '0' := by
  induction count with
  | zero => simp
  | succ count ih =>
    have more : 0 < value * 10 ^ count := Nat.mul_pos positive (Nat.pow_pos (by decide))
    have last := Nat.toDigits_append_toDigits (b := 10) (d := 0) (by decide) more (by decide)
    rw [Nat.toDigits_zero] at last
    rw [Nat.pow_succ, ← Nat.mul_assoc, Nat.mul_comm _ 10, List.replicate_succ', ← List.append_assoc, ← ih]
    exact last.symm

theorem numeral_ne_nil (value : Nat) : numeral value ≠ [] := Nat.toDigits_ne_nil

theorem allDigits_numeral (value : Nat) : allDigits (numeral value) = true := by
  simp only [allDigits, Bool.and_eq_true, Bool.not_eq_true', List.isEmpty_eq_false_iff, List.all_eq_true]
  exact ⟨numeral_ne_nil value, fun _ member => isDigit_of_mem_numeral member⟩

theorem toNat_of_isDigit {c : Char} (digit : c.isDigit = true) : 48 ≤ c.toNat ∧ c.toNat ≤ 57 := by
  simp only [Char.isDigit, Bool.and_eq_true, decide_eq_true_eq] at digit
  exact digit

theorem toNat_of_isAlpha {c : Char} (alpha : c.isAlpha = true) : 65 ≤ c.toNat ∧ c.toNat ≤ 122 := by
  unfold Char.isAlpha Char.isUpper Char.isLower at alpha
  simp only [Bool.or_eq_true, Bool.and_eq_true, decide_eq_true_eq] at alpha
  change (65 ≤ c.toNat ∧ c.toNat ≤ 90) ∨ (97 ≤ c.toNat ∧ c.toNat ≤ 122) at alpha
  omega

/-- Lower case moves the capital letters only. -/
theorem toNat_toLower (c : Char) :
    c.toLower.toNat = if 65 ≤ c.toNat ∧ c.toNat ≤ 90 then c.toNat + 32 else c.toNat := by
  have code : (c.val ≥ 'A'.val ∧ c.val ≤ 'Z'.val) ↔ 65 ≤ c.toNat ∧ c.toNat ≤ 90 := by
    rw [ge_iff_le, UInt32.le_iff_toNat_le, UInt32.le_iff_toNat_le]
    rfl
  unfold Char.toLower
  split
  · rename_i upper
    rw [if_pos (code.mp upper)]
    change (c.val + 32).toNat = c.val.toNat + 32
    rw [UInt32.toNat_add]
    exact Nat.mod_eq_of_lt (Nat.lt_of_le_of_lt (Nat.add_le_add_right (code.mp upper).2 32) (by decide))
  · rename_i other
    rw [if_neg (other ∘ code.mpr)]

theorem not_isAlpha_of_isDigit {c : Char} (digit : c.isDigit = true) : c.isAlpha = false := by
  rw [Bool.eq_false_iff]
  intro alpha
  have low := toNat_of_isDigit digit
  have high := toNat_of_isAlpha alpha
  omega

theorem not_isBlank_of_isAlphanum {c : Char} (plain : c.isAlphanum = true) : isBlank c = false := by
  have code : 48 ≤ c.toNat ∧ c.toNat ≤ 122 := by
    rcases Bool.or_eq_true_iff.mp plain with alpha | digit
    · have bounds := toNat_of_isAlpha alpha
      omega
    · have bounds := toNat_of_isDigit digit
      omega
  simp only [isBlank, Bool.or_eq_false_iff, Bool.and_eq_false_iff, decide_eq_false_iff_not, beq_eq_false_iff_ne]
  omega

/-- Text that neither starts nor ends with white space is left as it is. -/
theorem trim_eq_self {text : List Char} (first : ∀ c ∈ text.head?, isBlank c = false)
    (last : ∀ c ∈ text.getLast?, isBlank c = false) : trim text = text := by
  have left {text : List Char} (first : ∀ c ∈ text.head?, isBlank c = false) : trimLeft text = text := by
    cases text with
    | nil => rfl
    | cons c rest => simp [trimLeft, first c rfl]
  unfold trim
  rw [left first, left (by rwa [List.head?_reverse]), List.reverse_reverse]

/-- Letters and digits have no white space around them. -/
theorem trim_of_isAlphanum {text : List Char} (plain : ∀ c ∈ text, c.isAlphanum = true) : trim text = text :=
  trim_eq_self (fun c member => not_isBlank_of_isAlphanum (plain c (List.mem_of_mem_head? member)))
    fun c member => not_isBlank_of_isAlphanum (plain c (List.mem_of_getLast? member))

/-- A maximal run ends at the first character that is not of its kind. -/
theorem span_append {p : Char → Bool} {front rest : List Char} (all : ∀ c ∈ front, p c = true)
    (none : ∀ c ∈ rest.head?, p c = false) : (front ++ rest).span p = (front, rest) := by
  rw [List.span_eq_takeWhile_dropWhile, List.takeWhile_append_of_pos all, List.dropWhile_append_of_pos all]
  cases rest with
  | nil => simp
  | cons c rest => simp [none c rfl]

theorem exists_cons_of_allDigits {text : List Char} (digits : allDigits text = true) :
    ∃ c rest, text = c :: rest ∧ c.isDigit = true := by
  cases text with
  | nil => cases digits
  | cons c rest =>
    simp only [allDigits, List.all_cons, Bool.and_eq_true] at digits
    exact ⟨c, rest, rfl, digits.2.1⟩

/-- A digit is the numeral of what it counts. -/
theorem toDigits_of_isDigit {c : Char} (digit : c.isDigit = true) :
    c.toNat - '0'.toNat < 10 ∧ Nat.toDigits 10 (c.toNat - '0'.toNat) = [c] := by
  have code := (toNat_of_isDigit digit).2
  have known : ∀ n < 58, (Char.ofNat n).isDigit = true → (Char.ofNat n).toNat - '0'.toNat < 10 ∧
      Nat.toDigits 10 ((Char.ofNat n).toNat - '0'.toNat) = [Char.ofNat n] := by decide
  have found := known c.toNat (Nat.lt_succ_of_le code)
  rw [Char.ofNat_toNat] at found
  exact found digit

/-- Digits after a number that is not zero are the last ones of a numeral. -/
theorem numeral_ofDigitChars {digits : List Char} (decimal : ∀ c ∈ digits, c.isDigit = true) {number : Nat}
    (positive : 0 < number) : numeral (Nat.ofDigitChars 10 digits number) = numeral number ++ digits := by
  induction digits generalizing number with
  | nil => rw [Nat.ofDigitChars_nil, List.append_nil]
  | cons c rest ih =>
    obtain ⟨digit, others⟩ := List.forall_mem_cons.mp decimal
    obtain ⟨less, single⟩ := toDigits_of_isDigit digit
    have last : numeral (10 * number + (c.toNat - '0'.toNat)) = numeral number ++ [c] := by
      rw [numeral, ← Nat.toDigits_append_toDigits (by decide) positive less, single, numeral]
    rw [Nat.ofDigitChars_cons, ih others (by omega), last, List.append_assoc, List.singleton_append]

/-- Digits that do not all stand for nothing are a numeral after zeros. -/
theorem numeral_digitsValue {digits : List Char} (decimal : ∀ c ∈ digits, c.isDigit = true)
    (positive : 0 < digitsValue digits) : numeral (digitsValue digits) = digits.dropWhile (· == '0') := by
  induction digits with
  | nil => exact absurd positive (Nat.lt_irrefl 0)
  | cons c rest ih =>
    obtain ⟨digit, others⟩ := List.forall_mem_cons.mp decimal
    have value : digitsValue (c :: rest) = Nat.ofDigitChars 10 rest (c.toNat - '0'.toNat) := by
      rw [digitsValue, Nat.ofDigitChars_cons, Nat.mul_zero, Nat.zero_add]
    by_cases zero : c = '0'
    · subst zero
      rw [value] at positive ⊢
      exact ih others positive
    · have some : 0 < c.toNat - '0'.toNat := by
        have low := (toNat_of_isDigit digit).1
        have different : c.toNat ≠ 48 := fun same => zero (Char.toNat_inj.mp same)
        change 0 < c.toNat - 48
        omega
      have single : numeral (c.toNat - '0'.toNat) = [c] := (toDigits_of_isDigit digit).2
      rw [value, numeral_ofDigitChars others some, single, List.dropWhile_cons_of_neg (by simpa using zero)]
      rfl

private theorem ofDigitChars_lt {digits : List Char} (decimal : ∀ c ∈ digits, c.isDigit = true) (number : Nat) :
    Nat.ofDigitChars 10 digits number < (number + 1) * 10 ^ digits.length := by
  induction digits generalizing number with
  | nil => simp
  | cons c rest ih =>
    obtain ⟨digit, others⟩ := List.forall_mem_cons.mp decimal
    have small := (toDigits_of_isDigit digit).1
    rw [Nat.ofDigitChars_cons, List.length_cons, Nat.pow_succ, ← Nat.mul_assoc, Nat.mul_right_comm]
    exact (ih others _).trans_le (Nat.mul_le_mul_right _ (by omega))

/-- Digits stand for less than a one with as many zeros. -/
theorem digitsValue_lt {digits : List Char} (decimal : ∀ c ∈ digits, c.isDigit = true) :
    digitsValue digits < 10 ^ digits.length := by
  simpa [digitsValue] using ofDigitChars_lt decimal 0

variable {width value : Nat}

/-- Zeros in front do not count. -/
theorem digitsValue_padLeft (width value : Nat) : digitsValue (padLeft width '0' (numeral value)) = value := by
  rw [digitsValue, padLeft, Nat.ofDigitChars_append, Nat.ofDigitChars_replicate_zero, Nat.mul_zero]
  exact digitsValue_numeral value

theorem isDigit_of_mem_padLeft {c : Char} (member : c ∈ padLeft width '0' (numeral value)) : c.isDigit = true := by
  rcases List.mem_append.mp member with zero | digit
  · rw [List.eq_of_mem_replicate zero]
    rfl
  · exact isDigit_of_mem_numeral digit

theorem allDigits_padLeft (width value : Nat) : allDigits (padLeft width '0' (numeral value)) = true := by
  simp only [allDigits, Bool.and_eq_true, Bool.not_eq_true', List.isEmpty_eq_false_iff, List.all_eq_true]
  exact ⟨List.append_ne_nil_of_right_ne_nil _ (numeral_ne_nil value), fun _ member => isDigit_of_mem_padLeft member⟩

/-- A number with no more digits than the width fills the width. -/
theorem length_padLeft_numeral (positive : 0 < width) (short : value < 10 ^ width) :
    (padLeft width '0' (numeral value)).length = width := by
  rw [length_padLeft]
  exact Nat.max_eq_left ((Nat.length_toDigits_le_iff (by decide) positive).mpr short)

end Text

namespace Number
attribute [local instance (high)] instPowNat

variable {n : Nat}

private theorem ofNat_zero : ofNat 0 = zero false := by simp [ofNat, ofScaled]

/-- The form of a whole number: all 53 bits of its significand are used. -/
private theorem ofNat_eq (positive : n ≠ 0) (small : n < 2 ^ (53 : Nat)) :
    ∃ canonical, ofNat n = .finite false (n * 2 ^ (52 - n.log2)) (1022 + n.log2) canonical := by
  have low := Nat.log2_self_le positive
  have bits : n.log2 < 53 := (Nat.log2_lt positive).mpr small
  have high := Nat.lt_log2_self (n := n)
  have full : 2 ^ (52 : Nat) ≤ n * 2 ^ (52 - n.log2) := by
    calc 2 ^ (52 : Nat) = 2 ^ n.log2 * 2 ^ (52 - n.log2) := by rw [← Nat.pow_add]; congr 1; omega
      _ ≤ n * 2 ^ (52 - n.log2) := Nat.mul_le_mul_right _ low
  have bound : n * 2 ^ (52 - n.log2) < 2 ^ (53 : Nat) := by
    calc n * 2 ^ (52 - n.log2) < 2 ^ (n.log2 + 1) * 2 ^ (52 - n.log2) :=
          Nat.mul_lt_mul_of_pos_right high (Nat.two_pow_pos _)
      _ = 2 ^ (53 : Nat) := by rw [← Nat.pow_add]; congr 1; omega
  refine ⟨⟨bound, by omega, .inr full⟩, ?_⟩
  have target : ((1074 : Int) + n.log2 - 52).toNat = 1022 + n.log2 := by omega
  have shift : (-(((1022 + n.log2 : Nat) : Int) - 1074)).toNat = 52 - n.log2 := by omega
  unfold ofNat ofScaled
  simp only [positive, ↓reduceIte, target, shift]
  rw [if_pos (by omega), ofSignificand, dif_pos ⟨bound, by omega, .inr full⟩]

/-- A whole number as a fraction. -/
private theorem fraction_eq (bits : n.log2 < 53) :
    fraction (n * 2 ^ (52 - n.log2)) (1022 + n.log2) = (n * 2 ^ (52 - n.log2), 2 ^ (52 - n.log2)) := by
  unfold fraction
  rw [show 1022 + n.log2 - 1074 = 0 by omega, show 1074 - (1022 + n.log2) = 52 - n.log2 by omega, Nat.pow_zero,
    Nat.mul_one]

/-- Only the number itself is both whole and near enough to read back as it. -/
private theorem eq_of_readsBack {scale : Int} {candidate : Nat} (bits : n.log2 < 53) (whole : 0 ≤ scale)
    (reads : readsBack (n * 2 ^ (52 - n.log2)) (1022 + n.log2) scale candidate = true) :
    candidate * 10 ^ scale.toNat = n := by
  have least : (-scale).toNat = 0 := by omega
  have unit : 1076 - (1022 + n.log2) = 52 - n.log2 + 2 := by omega
  have none : 1022 + n.log2 - 1076 = 0 := by omega
  have place := Nat.two_pow_pos (52 - n.log2)
  simp only [readsBack, roundingBounds, least, unit, none, Nat.pow_zero, Nat.mul_one, Nat.pow_add] at reads
  generalize 2 ^ (52 - n.log2) = w at *
  generalize candidate * 10 ^ scale.toNat = value at *
  rw [show value * (w * 2 ^ 2) = 4 * (value * w) by ring] at reads
  have near : 4 * (n * w) ≤ 4 * (value * w) + 2 ∧ 4 * (value * w) ≤ 4 * (n * w) + 2 := by
    split at reads <;> simp only [Bool.and_eq_true, decide_eq_true_eq] at reads <;> split at reads <;> omega
  rcases Nat.lt_trichotomy value n with less | same | greater
  · have step : (value + 1) * w ≤ n * w := Nat.mul_le_mul_right w less
    rw [Nat.add_mul] at step
    omega
  · exact same
  · have step : (n + 1) * w ≤ value * w := Nat.mul_le_mul_right w greater
    rw [Nat.add_mul] at step
    omega

private theorem readsBack_self (bits : n.log2 < 53) :
    readsBack (n * 2 ^ (52 - n.log2)) (1022 + n.log2) 0 n = true := by
  have unit : 1076 - (1022 + n.log2) = 52 - n.log2 + 2 := by omega
  have none : 1022 + n.log2 - 1076 = 0 := by omega
  simp only [readsBack, roundingBounds, unit, none, Nat.pow_zero, Nat.mul_one, Nat.pow_add, Int.toNat_zero, Int.neg_zero]
  generalize 2 ^ (52 - n.log2) = w at *
  rw [show n * (w * 2 ^ 2) = 4 * (n * w) by ring]
  split <;> simp only [Bool.and_eq_true, decide_eq_true_eq] <;> split <;> omega

private theorem candidate?_zero (bits : n.log2 < 53) :
    candidate? (n * 2 ^ (52 - n.log2)) (1022 + n.log2) 0 = some n := by
  have place := Nat.two_pow_pos (52 - n.log2)
  have reads := readsBack_self bits
  unfold candidate?
  simp only [fraction_eq bits, Int.toNat_zero, Int.neg_zero, Nat.pow_zero, Nat.mul_one, Nat.mul_mod_left,
    Nat.mul_div_cancel _ place, Nat.mul_zero, place, true_or, ↓reduceIte, List.find?_cons, reads]

/-- The search ends at a place where something reads back, or before it, with digits that read back. -/
theorem searchDigits_reads {s e : Nat} {place : Int} (ends : (candidate? s e place).isSome = true) (size : Int) :
    ∀ fuel count : Nat, place ≤ size - count + 1 → size + 1 ≤ place + count + fuel →
      place ≤ (searchDigits s e size fuel count).2 ∧
        readsBack s e (searchDigits s e size fuel count).2 (searchDigits s e size fuel count).1 = true
  | 0, count, before, enough => by
    have last : size - count + 1 = place := by omega
    obtain ⟨found, search⟩ := Option.isSome_iff_exists.mp ends
    rw [searchDigits, last, search]
    exact ⟨Int.le_refl place, List.find?_some search⟩
  | fuel + 1, count, before, enough => by
    rw [searchDigits]
    cases search : candidate? s e (size - count + 1) with
    | some found => exact ⟨before, List.find?_some search⟩
    | none =>
      have more : size - count + 1 ≠ place := by
        intro last
        rw [last] at search
        rw [search] at ends
        cases ends
      exact searchDigits_reads ends size fuel (count + 1) (by omega) (by omega)

private theorem floorLog2_eq (positive : n ≠ 0) (bits : n.log2 < 53) :
    floorLog2 (n * 2 ^ (52 - n.log2)) (2 ^ (52 - n.log2)) = n.log2 := by
  have low := Nat.log2_self_le positive
  have high := Nat.lt_log2_self (n := n)
  have place := Nat.two_pow_pos (52 - n.log2)
  have scaled : (n * 2 ^ (52 - n.log2)).log2 = 52 := by
    refine (Nat.log2_eq_iff (Nat.mul_ne_zero positive place.ne')).mpr ⟨?_, ?_⟩
    · calc 2 ^ (52 : Nat) = 2 ^ n.log2 * 2 ^ (52 - n.log2) := by rw [← Nat.pow_add]; congr 1; omega
        _ ≤ n * 2 ^ (52 - n.log2) := Nat.mul_le_mul_right _ low
    · calc n * 2 ^ (52 - n.log2) < 2 ^ (n.log2 + 1) * 2 ^ (52 - n.log2) := Nat.mul_lt_mul_of_pos_right high place
        _ = 2 ^ (53 : Nat) := by rw [← Nat.pow_add]; congr 1; omega
  have estimate : ((52 : Nat) : Int) - ((52 - n.log2 : Nat) : Int) = n.log2 := by omega
  unfold floorLog2
  simp only [scaled, Nat.log2_two_pow, estimate, Int.toNat_natCast]
  rw [if_pos]
  rw [show (-(n.log2 : Int)).toNat = 0 by omega, Nat.pow_zero, Nat.one_mul]
  exact Nat.mul_le_mul_right _ low

private theorem floorLog10_bounds (positive : n ≠ 0) (bits : n.log2 < 53) :
    0 ≤ floorLog10 (n * 2 ^ (52 - n.log2)) (2 ^ (52 - n.log2)) ∧
      floorLog10 (n * 2 ^ (52 - n.log2)) (2 ^ (52 - n.log2)) ≤ 16 := by
  have place := Nat.two_pow_pos (52 - n.log2)
  unfold floorLog10
  simp only [floorLog2_eq positive bits]
  have estimate : 0 ≤ ((n.log2 : Int) * 30103).fdiv 100000 ∧ ((n.log2 : Int) * 30103).fdiv 100000 ≤ 15 := by
    rw [Int.fdiv_eq_ediv_of_nonneg _ (by decide)]
    omega
  generalize ((n.log2 : Int) * 30103).fdiv 100000 = k at estimate
  split
  · omega
  · split
    · omega
    · rename_i short
      -- No number is short of ten to the power of zero.
      have more : k ≠ 0 := by
        rintro rfl
        apply short
        simp only [Int.toNat_zero, Int.neg_zero, Nat.pow_zero, Nat.one_mul, decide_eq_true_eq]
        exact Nat.le_mul_of_pos_left _ (Nat.pos_of_ne_zero positive)
      omega

/-- The digits that are kept, with the zeros that were not. -/
theorem stripped_append (digits : List Char) :
    (digits.reverse.dropWhile (· == '0')).reverse ++
      List.replicate (digits.length - (digits.reverse.dropWhile (· == '0')).reverse.length) '0' = digits := by
  have split := List.takeWhile_append_dropWhile (p := (· == '0')) (l := digits.reverse)
  have zeros : digits.reverse.takeWhile (· == '0') =
      List.replicate (digits.reverse.takeWhile (· == '0')).length '0' := by
    refine List.eq_replicate_iff.mpr ⟨rfl, ?_⟩
    intro c member
    simpa using List.mem_takeWhile_imp member
  have count : digits.length - (digits.reverse.dropWhile (· == '0')).reverse.length =
      (digits.reverse.takeWhile (· == '0')).length := by
    have lengths := congrArg List.length split
    simp only [List.length_append, List.length_reverse] at lengths
    rw [List.length_reverse]
    omega
  rw [count]
  conv_rhs => rw [← List.reverse_reverse digits, ← split, List.reverse_append, zeros, List.reverse_replicate]

/-- Digits with zeros to follow are written with all of their zeros. -/
theorem text_scientific {found count : Nat} (positive : 0 < found)
    (short : (Text.numeral (found * 10 ^ count)).length ≤ 21) :
    Scientific.text ⟨((Text.numeral found).reverse.dropWhile (· == '0')).reverse,
      count + (Text.numeral found).length - 1⟩ = Text.numeral (found * 10 ^ count) := by
  have some : 0 < (Text.numeral found).length := List.length_pos_iff.mpr (Text.numeral_ne_nil found)
  have kept := stripped_append (Text.numeral found)
  have fewer : ((Text.numeral found).reverse.dropWhile (· == '0')).reverse.length ≤ (Text.numeral found).length := by
    conv_rhs => rw [← kept]
    simp
  rw [Text.numeral_mul_ten_pow positive, List.length_append, List.length_replicate] at short
  rw [Text.numeral_mul_ten_pow positive]
  conv_rhs => rw [← kept]
  generalize ((Text.numeral found).reverse.dropWhile (· == '0')).reverse = digits at fewer ⊢
  generalize (Text.numeral found).length = length at *
  have whole : ((count : Int) + length - 1).toNat + 1 = length + count := by omega
  unfold Scientific.text
  simp only [whole]
  rw [if_pos (by omega), if_pos (by omega), List.append_assoc, List.replicate_append_replicate]
  congr 2
  omega

/-- A whole number is written as its numeral. -/
theorem text_ofNat (small : n < 2 ^ (53 : Nat)) : (ofNat n).text = Text.numeral n := by
  by_cases positive : n = 0
  · subst positive
    simp [ofNat_zero, text, zero, Text.numeral]
  · have bits : n.log2 < 53 := (Nat.log2_lt positive).mpr small
    obtain ⟨canonical, form⟩ := ofNat_eq positive small
    have place := Nat.two_pow_pos (52 - n.log2)
    have significant : n * 2 ^ (52 - n.log2) ≠ 0 := Nat.mul_ne_zero positive place.ne'
    obtain ⟨low, high⟩ := floorLog10_bounds positive bits
    rw [form]
    simp only [text, significant, ↓reduceIte, Bool.false_eq_true, shortest, fraction_eq bits]
    have ends : (candidate? (n * 2 ^ (52 - n.log2)) (1022 + n.log2) 0).isSome = true := by
      rw [candidate?_zero bits, Option.isSome_some]
    obtain ⟨whole, reads⟩ := searchDigits_reads ends (floorLog10 (n * 2 ^ (52 - n.log2)) (2 ^ (52 - n.log2))) 16 1
      (by omega) (by omega)
    have same := eq_of_readsBack bits whole reads
    generalize searchDigits (n * 2 ^ (52 - n.log2)) (1022 + n.log2) _ 16 1 = search at whole same ⊢
    obtain ⟨found, scale⟩ := search
    dsimp only at whole same
    have digits : 0 < found := by
      rcases Nat.eq_zero_or_pos found with rfl | more
      · simp only [Nat.zero_mul] at same
        exact absurd same.symm positive
      · exact more
    have short : (Text.numeral (found * 10 ^ scale.toNat)).length ≤ 21 := by
      rw [same]
      exact (Nat.length_toDigits_le_iff (by decide) (by decide)).mpr (by omega)
    have written := text_scientific digits short
    rw [same, Int.toNat_of_nonneg whole] at written
    exact written

/-- A whole number from zero on is written as its numeral. -/
theorem text_ofInt {value : Int} (positive : 0 ≤ value) (small : value.natAbs < 2 ^ (53 : Nat)) :
    (ofInt value).text = Text.numeral value.natAbs := by
  rw [← text_ofNat small]
  have sign : decide (value < 0) = false := by simpa using positive
  simp only [ofInt, sign, ofNat]

/-- Rounding a whole number as a fraction gives the number. -/
theorem ofRatio_one (small : n < 2 ^ (53 : Nat)) : ofRatio false n 1 = ofNat n := by
  by_cases positive : n = 0
  · subst positive
    simp [ofNat_zero, ofRatio]
  · have bits : n.log2 < 53 := (Nat.log2_lt positive).mpr small
    have logarithm : floorLog2 n 1 = n.log2 := by
      unfold floorLog2
      simp only [show Nat.log2 1 = 0 from rfl, Int.natCast_zero, Int.sub_zero, Int.toNat_natCast, Nat.mul_one]
      rw [if_pos]
      rw [show (-(n.log2 : Int)).toNat = 0 by omega, Nat.pow_zero, Nat.one_mul]
      exact Nat.log2_self_le positive
    have target : ((1074 : Int) + n.log2 - 52).toNat = 1022 + n.log2 := by omega
    have exponent : ((n.log2 : Int) + 1022).toNat = 1022 + n.log2 := by omega
    have whole := nearestEven_mul (n * 2 ^ (52 - n.log2)) (d := 1) (by decide)
    rw [Nat.mul_one] at whole
    unfold ofRatio ofNat ofScaled
    simp only [positive, ↓reduceIte, logarithm, target, exponent]
    rw [if_pos (by omega), show 1074 - (1022 + n.log2) = 52 - n.log2 by omega,
      show 1022 + n.log2 - 1074 = 0 by omega, Nat.pow_zero, Nat.mul_one, whole,
      show (-(((1022 + n.log2 : Nat) : Int) - 1074)).toNat = 52 - n.log2 by omega]

/-- A digit is no sign. -/
theorem ofDecimal?_of_isDigit {c : Char} (digit : c.isDigit = true) (rest : List Char) :
    ofDecimal? (c :: rest) = (DecimalNumeral.read? (c :: rest)).map (·.toNumber false) := by
  unfold ofDecimal?
  split
  · rename_i minus
    cases minus
    cases digit
  · rename_i plus
    cases plus
    cases digit
  · rfl

/-- What goes on with a digit or an exponent after its first digit is read as a decimal: no other form of numbers does. -/
private theorem ofTrimmed?_of_isDigit {c : Char} {rest : List Char} (digit : c.isDigit = true)
    (next : ∀ mark ∈ rest.head?, mark.isDigit = true ∨ mark = 'e') :
    ofTrimmed? (c :: rest) = (DecimalNumeral.read? (c :: rest)).map (·.toNumber false) := by
  have decimal := ofDecimal?_of_isDigit digit rest
  unfold ofTrimmed?
  split
  · rename_i nothing
    cases nothing
  · rename_i mark rest form
    cases form
    have among := next mark rfl
    rw [← decimal, if_neg, if_neg, if_neg]
    all_goals
      rintro (rfl | rfl) <;> revert among <;> decide
  · rw [← decimal, if_neg, if_neg]
    · rintro minus
      cases minus
      exact absurd digit (by decide)
    · rintro (infinity | infinity) <;> cases infinity <;> exact absurd digit (by decide)

/-- A numeral with an exponent part. Without one the rest is empty. -/
theorem ofText_numeral_append (rest : List Char) (mark : ∀ c ∈ rest.head?, c = 'e')
    (last : ∀ c ∈ rest.getLast?, Text.isBlank c = false) :
    ofText (Text.numeral n ++ rest) =
      ((DecimalNumeral.exponent? rest).map fun exponent =>
        DecimalNumeral.toNumber false ⟨Text.numeral n, 0, exponent⟩).getD nan := by
  have digits : ∀ c ∈ Text.numeral n, c.isDigit = true := fun c member => Text.isDigit_of_mem_numeral member
  have span : Text.spanDigits (Text.numeral n ++ rest) = (Text.numeral n, rest) :=
    Text.span_append digits fun c member => by rw [mark c member]; rfl
  have read : DecimalNumeral.read? (Text.numeral n ++ rest) =
      (DecimalNumeral.exponent? rest).map fun exponent => ⟨Text.numeral n, 0, exponent⟩ := by
    unfold DecimalNumeral.read?
    rw [span]
    cases rest with
    | nil => simp [Text.numeral_ne_nil]
    | cons c rest =>
      obtain rfl := mark c rfl
      simp [Text.numeral_ne_nil]
  have trimmed : Text.trim (Text.numeral n ++ rest) = Text.numeral n ++ rest := by
    refine Text.trim_eq_self (fun c member => ?_) fun c member => ?_
    · rw [List.head?_append, Option.or_of_isSome (by simpa using Text.numeral_ne_nil n)] at member
      exact Text.not_isBlank_of_isAlphanum (by simp [Char.isAlphanum, digits c (List.mem_of_mem_head? member)])
    · rw [List.getLast?_append] at member
      cases rest with
      | nil => exact Text.not_isBlank_of_isAlphanum (by simp [Char.isAlphanum, digits c (List.mem_of_getLast? member)])
      | cons first rest => exact last c (by simpa [List.getLast?_cons] using member)
  rw [ofText, trimmed]
  obtain ⟨c, tail, form, digit⟩ := Text.exists_cons_of_allDigits (Text.allDigits_numeral n)
  rw [form, List.cons_append] at read ⊢
  rw [ofTrimmed?_of_isDigit digit, read, Option.map_map]
  · rfl
  · intro next member
    cases tail with
    | nil => exact .inr (mark next member)
    | cons second tail =>
      cases member
      exact .inl (digits next (by simp [form]))

/-- The numeral of a whole number reads back as it. -/
theorem ofText_numeral (small : n < 2 ^ (53 : Nat)) : ofText (Text.numeral n) = ofNat n := by
  have read := ofText_numeral_append (n := n) [] (by simp) (by simp)
  rw [List.append_nil] at read
  rw [read, ← ofRatio_one small]
  simp only [DecimalNumeral.exponent?, Option.map_some, Option.getD_some, DecimalNumeral.toNumber,
    Text.digitsValue_numeral]
  by_cases positive : n = 0
  · subst positive
    simp [ofRatio]
  · rw [if_neg positive, if_neg (by decide), if_neg (by omega)]
    simp

/-- The marks of a number that is written out, beside its digits. -/
def textMarks : List Char := ['.', 'e', '+', '-']

theorem mem_text_scientific {number : Scientific} (digits : ∀ c ∈ number.digits, c.isDigit = true) :
    number.text ≠ [] ∧ ∀ c ∈ number.text, c.isDigit = true ∨ c ∈ textMarks := by
  obtain ⟨text, exponent⟩ := number
  have zeros (count : Nat) : ∀ c ∈ List.replicate count '0', c.isDigit = true ∨ c ∈ textMarks :=
    fun c member => .inl (List.eq_of_mem_replicate member ▸ rfl)
  have numeral (n : Nat) : ∀ c ∈ Text.numeral n, c.isDigit = true ∨ c ∈ textMarks :=
    fun c member => .inl (Text.isDigit_of_mem_numeral member)
  have kept : ∀ c ∈ text, c.isDigit = true ∨ c ∈ textMarks := fun c member => .inl (digits c member)
  have among {mark : Char} (marks : mark ∈ textMarks) : mark.isDigit = true ∨ mark ∈ textMarks := .inr marks
  unfold Scientific.text
  dsimp only
  split
  · split
    · refine ⟨?_, List.forall_mem_append.mpr ⟨kept, zeros _⟩⟩
      intro none
      have length := congrArg List.length none
      simp only [List.length_append, List.length_replicate, List.length_nil] at length
      omega
    · refine ⟨by simp, List.forall_mem_append.mpr ⟨fun c member => kept c (List.mem_of_mem_take member), ?_⟩⟩
      exact List.forall_mem_cons.mpr ⟨among (by decide), fun c member => kept c (List.mem_of_mem_drop member)⟩
  split
  · refine ⟨by simp, ?_⟩
    simp only [List.cons_append, List.forall_mem_cons, List.forall_mem_append]
    exact ⟨.inl rfl, among (by decide), zeros _, kept⟩
  · refine ⟨by simp, List.forall_mem_append.mpr ⟨?_, ?_⟩⟩
    · split
      · simp
      · exact kept
      · rename_i digit rest _
        simp only [List.forall_mem_cons] at kept ⊢
        exact ⟨kept.1, among (by decide), kept.2⟩
    · simp only [List.forall_mem_cons]
      exact ⟨among (by decide), by split <;> exact among (by decide), numeral _⟩

/-- A finite number is written with digits and a few marks. -/
theorem mem_text {x : Number} (finite : x.isFinite = true) :
    x.text ≠ [] ∧ ∀ c ∈ x.text, c.isDigit = true ∨ c ∈ textMarks := by
  cases x with
  | nan => cases finite
  | infinite negative => cases finite
  | finite negative s e canonical =>
    have digits : ∀ c ∈ (shortest s e).digits, c.isDigit = true := fun c member =>
      Text.isDigit_of_mem_numeral (List.mem_reverse.mp
        ((List.dropWhile_suffix _).subset (List.mem_reverse.mp member)))
    obtain ⟨some, chars⟩ := mem_text_scientific digits
    unfold text
    dsimp only
    split
    · exact ⟨by simp, by simp [Char.isDigit]⟩
    split
    · exact ⟨by simp, List.forall_mem_cons.mpr ⟨.inr (by decide), chars⟩⟩
    · exact ⟨some, chars⟩

end Number
end Spreadsheet
