import Spreadsheet.Proofs.Format.Patterns

/-! Fractions over a denominator that the code names. A zero among the digits of the denominator is a placeholder as
well, and the pattern ends with the last placeholder: the denominator is read up to its last zero, and as a whole only
if it has no zero or ends with one. -/
namespace Spreadsheet

namespace Text
variable {d : Nat}

/-- The last digit is what is left of the division by ten. -/
theorem numeral_eq_append (more : 10 ≤ d) : numeral d = numeral (d / 10) ++ [Nat.digitChar (d % 10)] :=
  Nat.toDigits_of_base_le (by decide) more

theorem getLast?_numeral (d : Nat) : (numeral d).getLast? = some (Nat.digitChar (d % 10)) := by
  rcases Nat.lt_or_ge d 10 with less | more
  · rw [numeral, Nat.toDigits_of_lt_base less, Nat.mod_eq_of_lt less]
    rfl
  · rw [numeral_eq_append more, List.getLast?_concat]

/-- The numeral of a positive number does not start with zero. -/
theorem head?_numeral (positive : 0 < d) : (numeral d).head? ≠ some '0' := by
  induction d using Nat.strongRecOn with
  | ind d ih =>
    rcases Nat.lt_or_ge d 10 with less | more
    · rw [numeral, Nat.toDigits_of_lt_base less, List.head?_cons, ne_eq, Option.some.injEq, Nat.digitChar_eq_zero]
      omega
    · rw [numeral_eq_append more, List.head?_append_of_ne_nil _ (numeral_ne_nil _)]
      exact ih (d / 10) (by omega) (by omega)

end Text

namespace Format

/-- Whole numbers, a space, and a numerator over a denominator that is given by its digits. -/
def overCode (digits : List Char) : List Char := '#' :: ' ' :: '?' :: '/' :: digits

/-- The fraction of such a code. -/
def overFraction (denominator : Nat) : FractionPattern :=
  { integer := ['#'], separator := [' '], numerator := ['?'], denominator := .fixed denominator }

/-- The pattern of such a code. What is not read as the denominator is printed after it. -/
def overPattern (denominator : Nat) (trail : List Char) : DigitPattern :=
  { lead := [], trail, scale := 0, percents := 0, fraction := some (overFraction denominator) }

/-- Where the denominator ends for the code: with the last zero among the digits, or with the last of them if none is
zero. -/
def CutAtZero (front back : List Char) : Prop :=
  (front.getLast? = some '0' ∧ '0' ∉ back) ∨ (front ≠ [] ∧ '0' ∉ front ∧ back = [])

variable {front back : List Char}

theorem isPattern_overCode (digits : ∀ c ∈ front, c.isDigit = true) : IsPattern (overCode front) where
  clean := by
    have among : ∀ code < 58, 48 ≤ code → Char.ofNat code ∈ patternChars := by decide
    simp only [overCode, List.forall_mem_cons]
    refine ⟨by decide, by decide, by decide, by decide, fun c member => ?_⟩
    have code := Text.toNat_of_isDigit (digits c member)
    rw [← Char.ofNat_toNat c]
    exact among c.toNat (by omega) code.1
  placed := rfl

/-- Digits are placeholders if they are zero. -/
theorem isPlaceholder_of_isDigit {c : Char} (digit : c.isDigit = true) (some : c ≠ '0') : isPlaceholder c = false := by
  rw [isPlaceholder, Bool.or_eq_false_iff, Bool.or_eq_false_iff]
  refine ⟨⟨by simpa using some, ?_⟩, ?_⟩ <;> rw [beq_eq_false_iff_ne] <;> rintro rfl <;> cases digit

theorem fixedDenominator_eq_self (digits : ∀ c ∈ front, c.isDigit = true) (some : front ≠ [])
    (first : front.head? ≠ Option.some '0') : FractionPattern.fixedDenominator front = front := by
  obtain ⟨c, rest, rfl⟩ := List.exists_cons_of_ne_nil some
  have blank : Text.isBlank c = false :=
    Text.not_isBlank_of_isAlphanum (by simp [Char.isAlphanum, digits c List.mem_cons_self])
  have run : (c :: rest).takeWhile Char.isDigit = c :: rest := List.takeWhile_eq_self_iff.mpr digits
  unfold FractionPattern.fixedDenominator
  simp only [List.takeWhile_cons_of_neg (p := Text.isBlank) (by simpa using blank), List.length_nil, List.drop_zero,
    run, List.nil_append]
  rw [if_neg]
  simpa using first

/-- The pattern ends where the denominator does. -/
theorem bounds_overCode (digits : ∀ c ∈ front ++ back, c.isDigit = true) (first : front.head? ≠ some '0')
    (cut : CutAtZero front back) : DigitPattern.bounds (overCode (front ++ back)) = (0, 4 + front.length) := by
  have slash : (overCode (front ++ back)).findIdx? (· == '/') = some 3 := rfl
  rcases cut with ⟨last, clean⟩ | ⟨nonempty, clean, rfl⟩
  · obtain ⟨init, rfl⟩ := List.getLast?_eq_some_iff.mp last
    have ends : lastIndex? isPlaceholder (overCode (init ++ ['0'] ++ back)) = some (init.length + 4) := by
      have found := lastIndex?_append (p := isPlaceholder) (c := '0') rfl (overCode init) back ?_
      · simpa [overCode] using found
      · intro c member
        refine isPlaceholder_of_isDigit (digits c (List.mem_append_right _ member)) ?_
        rintro rfl
        exact clean member
    have bounds := bounds_of_last (c := '#') rfl ends (by
      intro place found
      cases slash.symm.trans found
      omega)
    rw [overCode, bounds, List.length_append, List.length_singleton]
    congr 1
    omega
  · rw [List.append_nil] at digits slash ⊢
    have ends : lastIndex? isPlaceholder (overCode front) = some 2 := by
      refine lastIndex?_append (p := isPlaceholder) (c := '?') rfl ['#', ' '] ('/' :: front) ?_
      refine List.forall_mem_cons.mpr ⟨rfl, fun c member => isPlaceholder_of_isDigit (digits c member) ?_⟩
      rintro rfl
      exact clean member
    have start : (overCode front).findIdx? isPlaceholder = some 0 := rfl
    have fixed : FractionPattern.fixedDenominator ((overCode front).drop 4) = front :=
      fixedDenominator_eq_self digits nonempty first
    unfold DigitPattern.bounds
    simp only [start, ends, Option.map_some, Nat.lt_irrefl, false_and, ↓reduceIte, Option.getD_some, List.drop_zero,
      slash, Nat.add_zero, Option.bind_some, fixed]
    simp [nonempty]

/-- The denominator is read up to where the pattern ends, and the digits behind it are printed after it. -/
theorem parse_overCode (digits : ∀ c ∈ front ++ back, c.isDigit = true) (first : front.head? ≠ some '0')
    (cut : CutAtZero front back) :
    DigitPattern.parse (overCode (front ++ back)) = overPattern (Text.digitsValue front) back := by
  have bounds := bounds_overCode digits first cut
  have some : front ≠ [] := by
    rcases cut with ⟨last, _⟩ | ⟨nonempty, _⟩
    · rintro rfl
      cases last
    · exact nonempty
  obtain ⟨own, others⟩ := List.forall_mem_append.mp digits
  have take : (overCode (front ++ back)).take (4 + front.length) = overCode front := by
    simp [overCode, Nat.add_comm 4]
  have drop : (overCode (front ++ back)).drop (4 + front.length) = back := by
    simp [overCode, Nat.add_comm 4]
  have commas : back.takeWhile (· == ',') = [] := by
    cases back with
    | nil => rfl
    | cons c rest =>
      refine List.takeWhile_cons_of_neg fun comma => ?_
      cases eq_of_beq comma
      exact absurd (others ',' List.mem_cons_self) (by decide)
  have slash : (overCode front).takeWhile (· != '/') = ['#', ' ', '?'] := rfl
  have percents : (overCode (front ++ back)).count '%' = 0 := by
    rw [List.count_eq_zero]
    intro member
    exact absurd ((isPattern_overCode digits).clean '%' member) (by decide)
  have length : 3 < (overCode front).length := by simp [overCode]
  have trimmed : Text.trim front = front :=
    Text.trim_of_isAlphanum fun c member => by simp [Char.isAlphanum, own c member]
  unfold DigitPattern.parse
  simp only [bounds, take, drop, commas, List.length_nil, Nat.add_zero, List.drop_zero, List.take_zero, slash, percents]
  rw [if_pos ⟨by decide, length⟩]
  simp [overPattern, overFraction, overCode, FractionPattern.ofParts, trimmed, fixedDenominator_eq_self own some first, some,
    isPlaceholder, placeholders, lastIndex?, List.findIdx?_cons]

/-- A denominator without a zero, or with one at its end, is read as a whole. -/
theorem parse_overCode_numeral {d : Nat} (positive : 0 < d) (whole : d % 10 = 0 ∨ '0' ∉ Text.numeral d) :
    DigitPattern.parse (overCode (Text.numeral d)) = overPattern d [] := by
  have cut : CutAtZero (Text.numeral d) [] := by
    rcases whole with zero | none
    · exact .inl ⟨by rw [Text.getLast?_numeral, zero]; rfl, by simp⟩
    · exact .inr ⟨Text.numeral_ne_nil d, none, rfl⟩
  have read := parse_overCode (by simpa using fun c => Text.isDigit_of_mem_numeral) (Text.head?_numeral positive) cut
  rwa [List.append_nil, Text.digitsValue_numeral] at read

end Format
end Spreadsheet
