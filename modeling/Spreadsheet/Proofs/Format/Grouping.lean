import Spreadsheet.Proofs.Format.Patterns
import Spreadsheet.Proofs.Number.Fixed

/-! Whole numbers in groups of three digits. The template has four places and the digits that do not fit stand in front
of the first one, so that nothing is lost on the way to the separators, which are counted from the right. -/
namespace Spreadsheet.Format
attribute [local instance (high)] instPowNat
variable {digits first separator : List Char} {rest : List (List Char)} {n : Nat}

/-- Digits divided into groups of three, but for the first group, which has one to three of them. -/
structure InThrees (digits first : List Char) (rest : List (List Char)) : Prop where
  whole : (first :: rest).flatten = digits
  least : 1 ≤ first.length
  most : first.length ≤ 3
  threes : ∀ group ∈ rest, group.length = 3

/-- How many digits the first group has is told by the count of all of them. -/
theorem InThrees.exists_length (groups : InThrees digits first rest) :
    ∃ count, digits.length = first.length + 3 * count := by
  refine ⟨rest.length, ?_⟩
  rw [← groups.whole, List.flatten_cons, List.length_append, List.length_flatten,
    List.map_eq_replicate_iff.mpr groups.threes, List.sum_replicate_nat, Nat.mul_comm]

/-- A digit in front opens a group of its own if the first group is full, and joins it if not. -/
theorem exists_groupThrees (separator : List Char) (written : digits ≠ []) :
    ∃ first rest, InThrees digits first rest ∧ groupThrees separator digits = separator.intercalate (first :: rest) := by
  induction digits with
  | nil => exact absurd rfl written
  | cons digit later ih =>
    by_cases last : later = []
    · subst last
      exact ⟨[digit], [], ⟨rfl, Nat.le_refl 1, by simp, fun _ none => nomatch none⟩, by simp [groupThrees]⟩
    · obtain ⟨first, rest, groups, text⟩ := ih last
      obtain ⟨count, length⟩ := groups.exists_length
      obtain ⟨whole, least, most, threes⟩ := groups
      by_cases full : later.length % 3 = 0
      · refine ⟨[digit], first :: rest, ⟨?_, Nat.le_refl 1, by simp, ?_⟩, ?_⟩
        · rw [List.flatten_cons, whole]
          rfl
        · exact List.forall_mem_cons.mpr ⟨by omega, threes⟩
        · rw [groupThrees, if_pos ⟨full, by simpa using last⟩, text]
          simp
      · refine ⟨digit :: first, rest, ⟨?_, Nat.succ_pos _, ?_, threes⟩, ?_⟩
        · rw [← whole]
          rfl
        · rw [List.length_cons]
          omega
        · rw [groupThrees, if_neg fun both => full both.1, text]
          cases rest <;> simp

theorem nil_intercalate (groups : List (List Char)) : [].intercalate groups = groups.flatten := by
  induction groups with
  | nil => rfl
  | cons first rest ih =>
    cases rest with
    | nil => simp
    | cons next rest => rw [List.intercalate_cons_cons, ih, List.append_nil, ← List.flatten_cons]

/-- Characters that no group has are left out of the separators only. -/
theorem filter_intercalate {p : Char → Bool} (groups : List (List Char)) (kept : ∀ c ∈ groups.flatten, p c = true) :
    (separator.intercalate groups).filter p = (separator.filter p).intercalate groups := by
  induction groups with
  | nil => rfl
  | cons first rest ih =>
    obtain ⟨here, later⟩ := List.forall_mem_append.mp (List.flatten_cons ▸ kept)
    have first_eq := List.filter_eq_self.mpr here
    cases rest with
    | nil => simpa using here
    | cons next rest =>
      rw [List.intercalate_cons_cons, List.intercalate_cons_cons, List.filter_append, List.filter_append, ih later,
        first_eq]

/-- The template takes all digits, and has a zero where there are none. -/
theorem fillInteger_threes (separator : List Char) (n : Nat) :
    fillInteger (if Text.numeral n = ['0'] then [] else Text.numeral n) ['#', '#', '#', '0'] (some separator) =
      groupThrees separator (Text.numeral n) := by
  have placed (digits : List Char) :
      placeDigits ['0', '#', '#', '#'] digits = if digits = [] then ['0'] else digits := by
    rcases digits with _ | ⟨a, _ | ⟨b, _ | ⟨c, rest⟩⟩⟩ <;> simp [placeDigits, isPlaceholder, padding]
  have filled : (placeDigits ['0', '#', '#', '#']
      (if Text.numeral n = ['0'] then [] else Text.numeral n).reverse).reverse = Text.numeral n := by
    rw [placed]
    by_cases zero : Text.numeral n = ['0']
    · simp [zero]
    · simp [zero, Text.numeral_ne_nil]
  have front : (Text.numeral n).takeWhile (!·.isDigit) = [] := by
    obtain ⟨c, rest, form, digit⟩ := Text.exists_cons_of_allDigits (Text.allDigits_numeral n)
    simp [form, digit]
  have run : (Text.numeral n).takeWhile Char.isDigit = Text.numeral n :=
    List.takeWhile_eq_self_iff.mpr fun c => Text.isDigit_of_mem_numeral
  unfold fillInteger
  simp only [show ['#', '#', '#', '0'].any isPlaceholder = true from rfl,
    show ['#', '#', '#', '0'].all isPlaceholder = true from rfl, ↓reduceIte,
    show ['#', '#', '#', '0'].reverse = ['0', '#', '#', '#'] from rfl, filled, groupDigits]
  simp only [front, List.length_nil, List.drop_zero, run, List.drop_length, List.nil_append, List.append_nil]

theorem isDigits_grouped : IsDigits "#,##0".toList where
  clean := List.all_iff_forall_prop.mp (by decide)
  wordless := by decide
  placed := rfl

/-- A whole number under the template. -/
theorem patternText?_grouped {x : Number} (whole : x.toInt? = some (n : Int)) (small : n < 2 ^ (53 : Nat))
    (locale : Locale) : patternText? x (.parse "#,##0".toList) locale .number =
      some (groupThrees locale.thousands.toList (Text.numeral n)) := by
  have pattern : DigitPattern.parse "#,##0".toList =
      { lead := [], trail := [], integer := ['#', '#', '#', '0'], grouping := true, scale := 0, percents := 0 } := by decide
  have one (base : Nat) : Number.power base 0 = 1 := rfl
  have fixed := Number.fixed?_zero_of_toInt? whole small
  have split : (Text.numeral n).takeWhile (· != '.') = Text.numeral n := by
    rw [List.takeWhile_eq_self_iff]
    intro c member
    rw [bne_iff_ne]
    rintro rfl
    exact absurd (Text.isDigit_of_mem_numeral member) (by decide)
  rw [pattern]
  simp [patternText?, one, Number.div_one, Number.mul_one, fixedText?, Scalar.fixed?, fixed, split,
    fillInteger_threes]

/-- A whole number from zero on shows with all of its digits in groups of three, which are counted from the right, and
with the separator of the locale between them: without the separators it is the plain numeral. This holds whatever the
renderer has been asked before. -/
theorem Renderer.format_grouped {renderer : Renderer} (reachable : renderer.Reachable) {x : Number}
    (whole : x.toInt? = some (n : Int)) (small : n < 2 ^ (53 : Nat)) (options : RenderOptions)
    (clean : ∀ c ∈ (options.locale.getD renderer.locale).thousands.toList,
      c.isDigit = false ∧ placeholderIndex? c = none) :
    let separator := (options.locale.getD renderer.locale).thousands.toList
    ∃ first rest, InThrees (Text.numeral n) first rest ∧
      (renderer.format (.number x) ⟨.number, "#,##0"⟩ options).1 = ⟨separator.intercalate (first :: rest), none⟩ ∧
      (separator.intercalate (first :: rest)).filter Char.isDigit = Text.numeral n := by
  intro separator
  obtain ⟨first, rest, groups, text⟩ := exists_groupThrees separator (Text.numeral_ne_nil n)
  have digit : ∀ c ∈ (first :: rest).flatten, c.isDigit = true :=
    groups.whole ▸ fun c => Text.isDigit_of_mem_numeral
  obtain ⟨finite, above⟩ := Number.isFinite_of_toInt? whole
  have magnitude : x.abs.toInt? = some (n : Int) := by simpa using Number.toInt?_abs whole
  have filled := patternText?_grouped magnitude small (options.locale.getD renderer.locale)
  have shown := isDigits_grouped.render?_eq finite (options.context .number renderer.locale) .number filled
  have plain : unreserved (separator.intercalate (first :: rest)) = separator.intercalate (first :: rest) := by
    have kept : unreserved separator = separator := unreserved_eq_self fun c member => (clean c member).2
    rw [unreserved] at kept ⊢
    rw [filter_intercalate _ fun c member => by rw [plain_of_isDigit (digit c member)]; rfl, kept]
  refine ⟨first, rest, groups, ?_, ?_⟩
  · rw [reachable.format_eq, rendered?, CellFormat.parsed, ← String.ofList_toList (s := "#,##0"), shown,
      Option.getD_some, if_neg above, List.nil_append, text, plain]
  · have none : separator.filter Char.isDigit = [] :=
      List.filter_eq_nil_iff.mpr fun c member => by simp [(clean c member).1]
    rw [filter_intercalate _ digit, none, nil_intercalate, groups.whole]

example : ((Renderer.new .deDe).format (.number (.ofNat 123456)) ⟨.number, "#,##0"⟩ {}).1.text = "123.456".toList := by
  decide +kernel

/-- The greatest number there is below the limit, with a first group of one digit. -/
theorem Renderer.format_grouped_longest :
    (Number.ofNat 9007199254740991).toInt? = some 9007199254740991 ∧
    (∀ c ∈ Locale.deDe.thousands.toList, c.isDigit = false ∧ placeholderIndex? c = none) ∧
    ∃ first rest, InThrees (Text.numeral 9007199254740991) first rest ∧
      ((new .deDe).format (.number (.ofNat 9007199254740991)) ⟨.number, "#,##0"⟩ {}).1 =
        ⟨Locale.deDe.thousands.toList.intercalate (first :: rest), none⟩ ∧
      (Locale.deDe.thousands.toList.intercalate (first :: rest)).filter Char.isDigit =
        Text.numeral 9007199254740991 := by
  have whole : (Number.ofNat 9007199254740991).toInt? = some ((9007199254740991 : Nat) : Int) := by decide +kernel
  have clean : ∀ c ∈ Locale.deDe.thousands.toList, c.isDigit = false ∧ placeholderIndex? c = none :=
    List.all_iff_forall_prop.mp (by decide)
  exact ⟨whole, clean, Renderer.format_grouped ⟨.deDe, [], rfl⟩ whole (by decide) {} clean⟩

end Spreadsheet.Format
