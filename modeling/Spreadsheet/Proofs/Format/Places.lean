import Spreadsheet.Proofs.Format.Patterns
import Spreadsheet.Proofs.Number.Fixed

/-! Whole numbers under a code of decimals alone: the digits of the number, the mark of the locale and a zero in each
place. The code asks for decimals by its zeros, and the number is rounded to as many by way of its text. -/
namespace Spreadsheet.Format
attribute [local instance (high)] instPowNat

/-- A zero, a point and zeros for the places. -/
def placesCode (places : Nat) : List Char := '0' :: '.' :: List.replicate places '0'

variable {places n : Nat}

theorem isPattern_placesCode (places : Nat) : IsPattern (placesCode places) where
  clean := by
    simp only [placesCode, List.forall_mem_cons]
    exact ⟨by decide, by decide, fun c member => List.eq_of_mem_replicate member ▸ by decide⟩
  placed := rfl

/-- All of the code is the pattern. -/
theorem parse_placesCode (positive : 0 < places) :
    DigitPattern.parse (placesCode places) =
      { lead := [], trail := [], integer := ['0'], scale := 0, hasPoint := true
        decimals := List.replicate places '0', percents := 0 } := by
  obtain ⟨more, rfl⟩ : ∃ more, places = more + 1 := ⟨places - 1, by omega⟩
  have chars : ∀ c ∈ placesCode (more + 1), c = '0' ∨ c = '.' := by
    simp only [placesCode, List.forall_mem_cons]
    exact ⟨by simp, by simp, fun c member => .inl (List.eq_of_mem_replicate member)⟩
  have last : lastIndex? isPlaceholder (placesCode (more + 1)) = some (more + 2) := by
    have found := lastIndex?_append (p := isPlaceholder) (c := '0') rfl ('0' :: '.' :: List.replicate more '0') []
      (by simp)
    simpa [placesCode, List.replicate_succ'] using found
  have slash : (placesCode (more + 1)).findIdx? (· == '/') = none := by
    rw [List.findIdx?_eq_none_iff]
    intro c member
    rcases chars c member with rfl | rfl <;> rfl
  have bounds : DigitPattern.bounds (placesCode (more + 1)) = (0, (placesCode (more + 1)).length) := by
    rw [placesCode] at last slash ⊢
    rw [bounds_of_last rfl last (by simp [slash])]
    simp
  have whole : (placesCode (more + 1)).takeWhile (· != '/') = placesCode (more + 1) := by
    rw [List.takeWhile_eq_self_iff]
    intro c member
    rcases chars c member with rfl | rfl <;> rfl
  have exponent : DigitPattern.exponentAt? (placesCode (more + 1)) = none := by
    apply exponentAt?_eq_none
    intro c member
    rcases chars c member with rfl | rfl <;> decide
  have percents : (placesCode (more + 1)).count '%' = 0 := by
    rw [List.count_eq_zero]
    intro member
    rcases chars '%' member with same | same <;> cases same
  unfold DigitPattern.parse
  simp only [bounds, List.drop_length, List.takeWhile_nil, List.length_nil, List.take_length, List.drop_zero,
    List.take_zero, Nat.add_zero, whole, Nat.lt_irrefl, and_false, ↓reduceIte, exponent, percents]
  simp [DigitPattern.withMantissa, placesCode, placeholders, isPlaceholder]

theorem fillInteger_numeral (n : Nat) :
    fillInteger (if Text.numeral n = ['0'] then [] else Text.numeral n) ['0'] none = Text.numeral n := by
  have filled (digits : List Char) :
      fillInteger digits ['0'] none = if digits = [] then ['0'] else digits := by
    by_cases none : digits = [] <;> simp [fillInteger, placeDigits, isPlaceholder, padding, none]
  rw [filled]
  split <;> rename_i zero
  · exact zero.symm
  · rw [if_neg (Text.numeral_ne_nil n)]

theorem fillDecimals_replicate (places : Nat) :
    fillDecimals (List.replicate places '0') (List.replicate places '0') = List.replicate places '0' := by
  have pairs : ((List.replicate places '0').zip (List.replicate places '0')).reverse =
      List.replicate places ('0', '0') := by
    rw [List.zip_replicate', List.reverse_replicate]
  have kept : trimZeros (List.replicate places ('0', '0')) = List.replicate places '0' := by
    cases places with
    | zero => rfl
    | succ places => simp [List.replicate_succ, trimZeros]
  unfold fillDecimals
  rw [if_neg (Nat.lt_irrefl _), pairs, kept, List.reverse_replicate, List.drop_length, List.append_nil]

/-- A magnitude under the code. -/
theorem patternText?_placesCode {x : Number} (whole : x.toInt? = some (n : Int)) (short : n < 10 ^ (15 : Nat))
    (positive : 0 < places) (near : places ≤ Number.maxPlaces) (range : n * 10 ^ places < 10 ^ (21 : Nat))
    (locale : Locale) :
    patternText? x (.parse (placesCode places)) locale .number =
      some (Text.numeral n ++ locale.decimal.toList ++ List.replicate places '0') := by
  have one (base : Nat) : Number.power base 0 = 1 := by
    simp only [Number.power, Nat.pow_zero]
    rfl
  have fixed := Number.fixed?_of_toInt? whole short positive near range
  have split : (Text.numeral n ++ '.' :: List.replicate places '0').takeWhile (· != '.') = Text.numeral n := by
    rw [List.takeWhile_append_of_pos]
    · simp
    · intro c member
      have digit := Text.isDigit_of_mem_numeral member
      rw [bne_iff_ne]
      rintro rfl
      cases digit
  rw [parse_placesCode positive]
  simp [patternText?, one, Number.div_one, Number.mul_one, fixedText?, Scalar.fixed?, fixed, split,
    fillInteger_numeral, fillDecimals_replicate]

/-- A whole number from zero on, of fifteen digits, shows with its own digits, the mark of the locale and as many zeros
as the code has places, if the digits and the zeros together are no more than twenty-one. Characters for private use in
the mark are left out. -/
theorem Renderer.format_places {renderer : Renderer} (reachable : renderer.Reachable) {x : Number}
    (whole : x.toInt? = some (n : Int)) (short : n < 10 ^ (15 : Nat)) (positive : 0 < places) (near : places ≤ 100)
    (range : n * 10 ^ places < 10 ^ (21 : Nat)) (options : RenderOptions) :
    (renderer.format (.number x) ⟨.number, String.ofList (placesCode places)⟩ options).1 =
      ⟨Text.numeral n ++ unreserved (options.locale.getD renderer.locale).decimal.toList ++
        List.replicate places '0', none⟩ := by
  have units := Number.toInt?_eq_some_iff.mp whole
  have finite : x.isFinite = true := Number.isFinite_iff.mpr ⟨_, units⟩
  have above : ¬x < 0 := by
    rw [Number.neg_iff_units units, Int.not_lt]
    exact Int.mul_nonneg (Int.natCast_nonneg n) (Int.natCast_nonneg _)
  have magnitude : x.abs.toInt? = some (n : Int) := by simpa using Number.toInt?_abs whole
  have filled := patternText?_placesCode magnitude short positive near range (options.locale.getD renderer.locale)
  have shown := (isPattern_placesCode places).render?_eq finite (options.context .number renderer.locale)
    .number filled
  have digits : unreserved (Text.numeral n) = Text.numeral n :=
    unreserved_eq_self (plain_numeral n)
  have zeros : unreserved (List.replicate places '0') = List.replicate places '0' :=
    unreserved_eq_self fun c member => by rw [List.eq_of_mem_replicate member]; rfl
  rw [reachable.format_eq, rendered?, CellFormat.parsed, shown, Option.getD_some, if_neg above, List.nil_append,
    unreserved_append, unreserved_append, digits, zeros]

/-- The greatest number of fifteen digits with as many places as there is room for, in a locale with a comma. -/
theorem Renderer.format_places_widest :
    (Number.ofNat 999999999999999).toInt? = some 999999999999999 ∧
    ((new .deDe).format (.number (.ofNat 999999999999999)) ⟨.number, "0.000000"⟩ {}).1 =
      ⟨"999999999999999,000000".toList, none⟩ := by
  have whole : (Number.ofNat 999999999999999).toInt? = some ((999999999999999 : Nat) : Int) := by decide +kernel
  exact ⟨whole, Renderer.format_places ⟨.deDe, [], rfl⟩ whole (by decide) (show 0 < 6 by decide) (by decide)
    (by decide) {}⟩

/-- With one place more than there is room for, the text in between has an exponent part of its own. -/
theorem Renderer.format_places_of_exponent :
    (Number.ofNat 1).toInt? = some 1 ∧
    ((new .enUs).format (.number (.ofNat 1)) ⟨.number, String.ofList (placesCode 21)⟩ {}).1.text = "NaN.".toList := by
  decide +kernel

end Spreadsheet.Format
