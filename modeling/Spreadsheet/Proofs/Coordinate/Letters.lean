import Mathlib.Data.List.Induction
import Spreadsheet.Coordinate.A1
import Spreadsheet.Proofs.Number.Counts

/-! The letters of columns are numerals in a base of 26 whose digits go from one to 26: each number from one on is
written in one way only, and each row of letters is the numeral of some number. -/
namespace Spreadsheet.A1
attribute [local instance (high)] instPowNat

/-- What a letter of either case counts, from one for the first letter. -/
def digitOf (c : Char) : Nat := c.toUpper.toNat - 'A'.toNat + 1

/-- The number that letters stand for after others that stand for a number. -/
def numberAfter (number : Nat) (letters : List Char) : Nat :=
  letters.foldl (fun number c => number * 26 + digitOf c) number

/-- The number that letters stand for, counted from one; no letters are zero. -/
def numberOf (letters : List Char) : Nat := numberAfter 0 letters

/-- A letter of either case is known by what it counts. -/
private theorem digitOf_alpha {c : Char} (alpha : c.isAlpha = true) :
    1 ≤ digitOf c ∧ digitOf c ≤ 26 ∧ letter (digitOf c - 1) = c.toUpper := by
  have code := (Text.toNat_of_isAlpha alpha).2
  have known : ∀ n < 123, (Char.ofNat n).isAlpha = true → 1 ≤ digitOf (Char.ofNat n) ∧ digitOf (Char.ofNat n) ≤ 26 ∧
      letter (digitOf (Char.ofNat n) - 1) = (Char.ofNat n).toUpper := by decide
  have found := known c.toNat (Nat.lt_succ_of_le code)
  rw [Char.ofNat_toNat] at found
  exact found alpha

/-- The letters of columns are letters in upper case. -/
private theorem letter_spec : ∀ index < 26, (letter index).isAlpha = true ∧ digitOf (letter index) = index + 1 := by decide

private theorem numberOf_append (letters : List Char) (c : Char) :
    numberOf (letters ++ [c]) = numberOf letters * 26 + digitOf c := by simp [numberOf, numberAfter]

theorem le_numberAfter (number : Nat) (letters : List Char) : number ≤ numberAfter number letters := by
  induction letters generalizing number with
  | nil => exact Nat.le_refl _
  | cons c rest ih => exact Nat.le_trans (by omega) (ih (number * 26 + digitOf c))

/-- Letters read back as the number that they were written for, before whatever follows. -/
private theorem numberOf_lettersFrom {fuel number : Nat} (enough : number ≤ fuel) (letters : List Char) :
    numberOf (lettersFrom fuel number letters) = numberAfter number letters := by
  induction fuel generalizing number letters with
  | zero =>
    obtain rfl := Nat.le_zero.mp enough
    rfl
  | succ fuel ih =>
    cases number with
    | zero => rfl
    | succ number =>
      have digit := (letter_spec (number % 26) (Nat.mod_lt _ (by decide))).2
      rw [lettersFrom, ih (by omega), numberAfter, List.foldl_cons, digit, ← Nat.add_assoc, Nat.div_add_mod']
      rfl

theorem numberOf_columnLetters (column : Nat) : numberOf (columnLetters column) = column + 1 :=
  numberOf_lettersFrom (Nat.le_refl _) []

theorem isAlpha_of_mem_columnLetters {column : Nat} {c : Char} (member : c ∈ columnLetters column) :
    c.isAlpha = true := by
  have written (fuel number : Nat) (letters : List Char) (rest : ∀ c ∈ letters, c.isAlpha = true) :
      ∀ c ∈ lettersFrom fuel number letters, c.isAlpha = true := by
    induction fuel generalizing number letters with
    | zero => cases number <;> exact rest
    | succ fuel ih =>
      cases number with
      | zero => exact rest
      | succ number =>
        refine ih _ _ (List.forall_mem_cons.mpr ⟨?_, rest⟩)
        exact (letter_spec (number % 26) (Nat.mod_lt _ (by decide))).1
  exact written _ _ [] (fun _ none => absurd none List.not_mem_nil) c member

theorem columnLetters_ne_nil (column : Nat) : columnLetters column ≠ [] := by
  intro none
  have number := numberOf_columnLetters column
  rw [none] at number
  cases number

/-- No two columns have the same letters. -/
theorem eq_of_columnLetters {column other : Nat} (same : columnLetters column = columnLetters other) :
    column = other := by
  have numbers := congrArg numberOf same
  rw [numberOf_columnLetters, numberOf_columnLetters] at numbers
  omega

/-- Letters are written for the number that they stand for. The last one is written first, so the induction takes
letters off the end. -/
private theorem lettersFrom_numberOf {letters : List Char} (alpha : ∀ c ∈ letters, c.isAlpha = true) {fuel : Nat}
    (enough : numberOf letters ≤ fuel) (rest : List Char) :
    lettersFrom fuel (numberOf letters) rest = letters.map Char.toUpper ++ rest := by
  induction letters using List.reverseRecOn generalizing fuel rest with
  | nil => cases fuel <;> rfl
  | append_singleton letters c ih =>
    obtain ⟨least, most, upper⟩ := digitOf_alpha (alpha c (by simp))
    rw [numberOf_append] at enough ⊢
    obtain ⟨digit, counts⟩ := Nat.exists_eq_add_of_le' least
    rw [counts, Nat.add_sub_cancel] at upper
    have more : numberOf letters * 26 + digit + 1 ≤ fuel := by omega
    cases fuel with
    | zero => omega
    | succ fuel =>
      rw [counts, ← Nat.add_assoc, lettersFrom, show (numberOf letters * 26 + digit) / 26 = numberOf letters by omega,
        show (numberOf letters * 26 + digit) % 26 = digit by omega, upper,
        ih (fun other member => alpha other (List.mem_append_left _ member)) (by omega)]
      simp

theorem one_le_numberOf {letters : List Char} (written : letters ≠ []) : 1 ≤ numberOf letters := by
  obtain rfl | ⟨front, c, rfl⟩ := List.eq_nil_or_concat letters
  · exact absurd rfl written
  · rw [List.concat_eq_append, numberOf_append, digitOf]
    omega

/-- Letters name the column that is written with them, in upper case. -/
theorem columnLetters_numberOf {letters : List Char} (written : letters ≠ [])
    (alpha : ∀ c ∈ letters, c.isAlpha = true) : columnLetters (numberOf letters - 1) = letters.map Char.toUpper := by
  rw [columnLetters, Nat.sub_add_cancel (one_le_numberOf written), lettersFrom_numberOf alpha (Nat.le_refl _),
    List.append_nil]

private theorem toInt?_start : (0 : Number).toInt? = some ((0 : Nat) : Int) := Number.toInt?_ofNat (by decide)

private theorem toInt?_base : (26 : Number).toInt? = some ((26 : Nat) : Int) := Number.toInt?_ofNat (by decide)

/-- Numbers up to the first one that does not fit into a significand are reckoned without rounding. -/
private theorem toInt?_foldl {letters : List Char} {x : Number} {number : Nat} (whole : x.toInt? = some (number : Int))
    (small : numberAfter number letters ≤ 2 ^ (53 : Nat)) :
    (letters.foldl (fun column c => column * 26 + .ofNat (digitOf c)) x).toInt? =
      some (numberAfter number letters : Int) := by
  induction letters generalizing x number with
  | nil => exact whole
  | cons c rest ih =>
    have bound := (le_numberAfter (number * 26 + digitOf c) rest).trans small
    have least : 1 ≤ digitOf c := Nat.le_add_left _ _
    have product : (x * 26).toInt? = some ((number : Int) * 26) := Number.toInt?_mul whole toInt?_base (by omega)
    have sum := Number.toInt?_add_of_le product (Number.toInt?_ofNat_of_le (show digitOf c ≤ 2 ^ (53 : Nat) by omega))
      (by omega)
    refine ih ?_ (show numberAfter (number * 26 + digitOf c) rest ≤ 2 ^ (53 : Nat) from small)
    push_cast
    exact sum

/-- Reckoned in numbers of a sheet, letters stand for the same column, as long as its number is small. -/
theorem columnOf_eq {letters : List Char} (written : letters ≠ []) (small : numberOf letters ≤ 2 ^ (53 : Nat)) :
    columnOf letters = .ofInt (numberOf letters - 1 : Nat) := by
  have least := one_le_numberOf written
  have whole : (letters.foldl (fun column c => column * 26 + .ofNat (digitOf c)) 0 : Number).toInt? =
      some (((numberOf letters - 1 : Nat) : Int) + 1) := by
    rw [show ((numberOf letters - 1 : Nat) : Int) + 1 = (numberOf letters : Nat) by omega]
    exact toInt?_foldl toInt?_start small
  exact Number.sub_one_eq whole (Int.natCast_nonneg _) (by omega)

/-- However many letters there are, and however their number is rounded, it is a whole one from one on. The last letter
is the one that makes it so. -/
theorem atLeast_columnOf {letters : List Char} (written : letters ≠ []) : (columnOf letters).AtLeast 0 := by
  have reckoned (letters : List Char) : letters ≠ [] →
      (letters.foldl (fun column c => column * 26 + .ofNat (digitOf c)) 0 : Number).AtLeast 1 := by
    induction letters using List.reverseRecOn with
    | nil => exact fun none => absurd rfl none
    | append_singleton letters c ih =>
      intro _
      have front : (letters.foldl (fun column c => column * 26 + .ofNat (digitOf c)) 0 : Number).AtLeast 0 := by
        by_cases none : letters = []
        · subst none
          rw [List.foldl_nil]
          exact Number.atLeast_of_toInt? toInt?_start
        · exact (ih none).mono (Nat.zero_le _)
      have digit : (Number.ofNat (digitOf c)).AtLeast 1 :=
        (Number.atLeast_ofNat _).mono (Nat.le_min.mpr ⟨Nat.le_add_left _ _, Nat.le_refl 1⟩)
      rw [List.foldl_append, List.foldl_cons, List.foldl_nil]
      exact (front.mul toInt?_base (by decide)).add digit (by decide) (Nat.le_refl 1)
  exact (reckoned letters written).sub_one

end Spreadsheet.A1
