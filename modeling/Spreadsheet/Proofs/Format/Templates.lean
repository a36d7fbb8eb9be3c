import Spreadsheet.Format.Template

/-! What a template prints. Text between its places stays where it is written. Digits fill the places from the right:
those that do not fit stand at the first place, and places that are left over in front print their padding, so that no
digit is lost. Of decimals only zeros at the end go, and only where no place asks for them. -/
namespace Spreadsheet.Format

/-- A template with a text at each of its places, from left to right. Text between the places stands as it is written. -/
inductive LaysOut : (pattern : List Char) → (shares : List (List Char)) → (text : List Char) → Prop where
  | nil : LaysOut [] [] []
  | fixed {c : Char} {pattern text : List Char} {shares : List (List Char)} (other : isPlaceholder c = false)
      (later : LaysOut pattern shares text) : LaysOut (c :: pattern) shares (c :: text)
  | place {c : Char} {pattern text : List Char} {shares : List (List Char)} (share : List Char)
      (place : isPlaceholder c = true) (later : LaysOut pattern shares text) :
      LaysOut (c :: pattern) (share :: shares) (share ++ text)

/-- What the places of a template print. Where there are enough places, the first ones print their padding and the
others a digit each; where there are too few, the first one prints all the digits that the others leave. -/
inductive Shared (places digits : List Char) : (shares : List (List Char)) → Prop where
  | enough {blank filled : List Char} (split : places = blank ++ filled) (each : filled.length = digits.length) :
      Shared places digits (blank.map padding ++ digits.map ([·]))
  | crowded {surplus fitting : List Char} (split : digits = surplus ++ fitting) (some : surplus ≠ [])
      (each : places.length = fitting.length + 1) : Shared places digits (surplus :: fitting.map ([·]))

/-- Decimals without zeros at their end, in whose stead their places print their padding, which is no zero. The last
digit that is kept is another one or has a place that asks for it. -/
inductive Trimmed (digits places : List Char) : (text : List Char) → Prop where
  | trim {kept front back : List Char} (digits_eq : digits = kept ++ List.replicate back.length '0')
      (places_eq : places = front ++ back) (each : front.length = kept.length) (free : '0' ∉ back)
      (needed : kept.getLast? = some '0' → front.getLast? = some '0') :
      Trimmed digits places (kept ++ back.flatMap padding)

@[simp] theorem reverse_padding (c : Char) : (padding c).reverse = padding c := by
  unfold padding
  split
  · rfl
  · split <;> rfl

@[simp] theorem placeholders_append (front back : List Char) :
    placeholders (front ++ back) = placeholders front ++ placeholders back := List.filter_append ..

namespace LaysOut
variable {front back text more : List Char} {shares others : List (List Char)}

theorem append (first : LaysOut front shares text) (second : LaysOut back others more) :
    LaysOut (front ++ back) (shares ++ others) (text ++ more) := by
  induction first with
  | nil => exact second
  | fixed other _ ih => exact .fixed other ih
  | place share place _ ih =>
    rw [List.append_assoc]
    exact .place share place ih

/-- Text without places stands as it is written. -/
theorem of_forall (fixed : ∀ c ∈ front, isPlaceholder c = false) : LaysOut front [] front := by
  induction front with
  | nil => exact .nil
  | cons c front ih =>
    obtain ⟨here, later⟩ := List.forall_mem_cons.mp fixed
    exact .fixed here (ih later)

end LaysOut

namespace Shared
variable {places digits : List Char} {shares : List (List Char)}

/-- One more place on the right with one more digit. -/
theorem snoc (shared : Shared places digits shares) (place digit : Char) :
    Shared (places ++ [place]) (digits ++ [digit]) (shares ++ [[digit]]) := by
  cases shared with
  | @enough blank filled split each =>
    have more : places ++ [place] = blank ++ (filled ++ [place]) := by rw [split, List.append_assoc]
    simpa using Shared.enough more (show (filled ++ [place]).length = (digits ++ [digit]).length by simp [each])
  | @crowded surplus fitting split some each =>
    have more : digits ++ [digit] = surplus ++ (fitting ++ [digit]) := by rw [split, List.append_assoc]
    simpa using Shared.crowded more some
      (show (places ++ [place]).length = (fitting ++ [digit]).length + 1 by simp [each])

/-- Without digits all places print their padding. -/
theorem nil (places : List Char) : Shared places [] (places.map padding) := by
  have shared : Shared places [] (places.map padding ++ [].map ([·])) := .enough (List.append_nil places).symm rfl
  simpa using shared

theorem eq_of_nil (shared : Shared places [] shares) : shares = places.map padding := by
  cases shared with
  | @enough blank filled split each =>
    obtain rfl := List.length_eq_zero_iff.mp each
    simp [split]
  | crowded split some => exact absurd (List.append_eq_nil_iff.mp split.symm).1 some

/-- The first place takes all the digits there are. -/
theorem singleton (place : Char) (digits : List Char) :
    Shared [place] digits [if digits = [] then padding place else digits] := by
  by_cases none : digits = []
  · simpa [none] using nil [place]
  · have shared : Shared [place] digits (digits :: [].map ([·])) := .crowded (List.append_nil digits).symm none rfl
    simpa [none] using shared

end Shared

theorem placeDigits_of_forall {pattern : List Char} (fixed : ∀ c ∈ pattern, isPlaceholder c = false)
    (digits : List Char) : placeDigits pattern digits = pattern := by
  induction pattern with
  | nil => rfl
  | cons c pattern ih =>
    obtain ⟨here, later⟩ := List.forall_mem_cons.mp fixed
    simp [placeDigits, here, ih later]

/-- Each place that is filled adds one to those on its right. Both lists are held in reverse. -/
theorem exists_laysOut_placeDigits {pattern : List Char} (placed : pattern.any isPlaceholder = true)
    (digits : List Char) : ∃ shares, LaysOut pattern.reverse shares (placeDigits pattern digits).reverse ∧
      Shared (placeholders pattern.reverse) digits.reverse shares := by
  have last {c : Char} (place : ¬(!isPlaceholder c) = true) (share : List Char) : LaysOut [c] [share] share := by
    simpa using LaysOut.place (c := c) share (by simpa using place) .nil
  have own {c : Char} (place : ¬(!isPlaceholder c) = true) : placeholders [c] = [c] := by
    simpa [placeholders] using place
  fun_induction placeDigits pattern digits with
  | case1 => cases placed
  | case2 c pattern digits fixed ih =>
    have other : isPlaceholder c = false := by simpa using fixed
    obtain ⟨shares, laid, shared⟩ := ih (by simpa [other] using placed)
    refine ⟨shares, ?_, ?_⟩
    · simpa using laid.append (.fixed other .nil)
    · simpa [placeholders, other] using shared
  | case3 c pattern place more digit digits ih =>
    obtain ⟨shares, laid, shared⟩ := ih more
    refine ⟨shares ++ [[digit]], ?_, ?_⟩
    · simpa using laid.append (last place [digit])
    · simpa [own place] using shared.snoc c digit
  | case4 c pattern place more ih =>
    obtain ⟨shares, laid, shared⟩ := ih more
    obtain rfl := shared.eq_of_nil
    refine ⟨(placeholders (pattern.reverse ++ [c])).map padding, ?_, ?_⟩
    · simpa [own place] using laid.append (last place (padding c))
    · simpa [own place] using Shared.nil (placeholders pattern.reverse ++ [c])
  | case5 c pattern digits place only ih =>
    have fixed : ∀ c ∈ pattern, isPlaceholder c = false := by simpa using only
    have none : placeholders pattern.reverse = [] := by simpa [placeholders] using fixed
    refine ⟨[if digits.reverse = [] then padding c else digits.reverse], ?_, ?_⟩
    · have before : ∀ c ∈ pattern.reverse, isPlaceholder c = false := by simpa using fixed
      have laid := (LaysOut.of_forall before).append
        (last place (if digits.reverse = [] then padding c else digits.reverse))
      rw [placeDigits_of_forall fixed, List.reverse_append, List.reverse_cons]
      simpa [apply_ite List.reverse] using laid
    · simpa [none, own place] using Shared.singleton c digits.reverse

/-- Digits in a template with a place, and no grouping. -/
theorem exists_laysOut_fillInteger {pattern : List Char} (placed : pattern.any isPlaceholder = true)
    (digits : List Char) : ∃ shares, LaysOut pattern shares (fillInteger digits pattern none) ∧
      Shared (placeholders pattern) digits shares := by
  have reversed : pattern.reverse.any isPlaceholder = true := by simpa using placed
  obtain ⟨shares, laid, shared⟩ := exists_laysOut_placeDigits reversed digits.reverse
  simp only [List.reverse_reverse] at laid shared
  exact ⟨shares, by rwa [fillInteger, if_pos placed], shared⟩

/-- Digits beside their places, the last ones first: those at the front that go are zeros, and none has a place that asks
for it. -/
theorem exists_trimZeros (pairs : List (Char × Char)) : ∃ gone rest, pairs = gone ++ rest ∧
    (∀ pair ∈ gone, pair.1 = '0' ∧ pair.2 ≠ '0') ∧ (∀ pair ∈ rest.head?, pair.1 = '0' → pair.2 = '0') ∧
    trimZeros pairs = gone.flatMap (padding ·.2) ++ rest.map Prod.fst := by
  induction pairs with
  | nil => exact ⟨[], [], rfl, by simp, by simp, rfl⟩
  | cons pair pairs ih =>
    obtain ⟨digit, place⟩ := pair
    by_cases stays : digit ≠ '0' ∨ place = '0'
    · refine ⟨[], (digit, place) :: pairs, rfl, by simp, ?_, by simp [trimZeros, stays]⟩
      rintro _ ⟨⟩ zero
      exact stays.resolve_left (not_not_intro zero)
    · obtain ⟨gone, rest, rfl, zeros, needed, text⟩ := ih
      refine ⟨(digit, place) :: gone, rest, rfl, ?_, needed, by simp [trimZeros, stays, text]⟩
      rw [not_or, Decidable.not_not] at stays
      exact List.forall_mem_cons.mpr ⟨stays, zeros⟩

/-- Decimals with a place for each. -/
theorem trimmed_fillDecimals {digits places : List Char} (each : digits.length = places.length) :
    Trimmed digits places (fillDecimals digits places) := by
  obtain ⟨gone, rest, split, zeros, needed, text⟩ := exists_trimZeros (digits.zip places).reverse
  have pairs : digits.zip places = rest.reverse ++ gone.reverse := by
    rw [← List.reverse_append, ← split, List.reverse_reverse]
  have digits_eq : digits = rest.reverse.map Prod.fst ++ gone.reverse.map Prod.fst := by
    rw [← List.map_append, ← pairs, List.map_fst_zip (by omega)]
  have places_eq : places = rest.reverse.map Prod.snd ++ gone.reverse.map Prod.snd := by
    rw [← List.map_append, ← pairs, List.map_snd_zip (by omega)]
  have zero : gone.reverse.map Prod.fst = List.replicate (gone.reverse.map Prod.snd).length '0' := by
    rw [List.eq_replicate_iff]
    simp only [List.length_map, List.mem_map, List.mem_reverse, true_and]
    rintro _ ⟨pair, member, rfl⟩
    exact (zeros pair member).1
  have filled : fillDecimals digits places =
      rest.reverse.map Prod.fst ++ (gone.reverse.map Prod.snd).flatMap padding := by
    have whole : digits.drop places.length = [] := List.drop_eq_nil_of_le (by omega)
    rw [fillDecimals, if_neg (by omega), text, whole]
    simp [List.reverse_flatMap, List.flatMap_map, Function.comp_def, ← List.map_reverse]
  rw [filled]
  refine .trim (zero ▸ digits_eq) places_eq (by simp) ?_ ?_
  · simp only [List.mem_map, List.mem_reverse, not_exists, not_and]
    exact fun pair member => (zeros pair member).2
  · simp only [List.getLast?_map, List.getLast?_reverse]
    intro last
    obtain ⟨pair, first, same⟩ := Option.map_eq_some_iff.mp last
    rw [first, Option.map_some, needed pair first same]

/-- Templates lose no digit. Digits in a template for the whole part, however many there are, all stand in its places, the
text between the places where it is written; of decimals only zeros at the end go. -/
theorem templates_keep_digits (digits : List Char) {pattern : List Char} (placed : pattern.any isPlaceholder = true)
    {decimals places : List Char} (each : decimals.length = places.length) :
    (∃ shares, LaysOut pattern shares (fillInteger digits pattern none) ∧
      Shared (placeholders pattern) digits shares) ∧
    Trimmed decimals places (fillDecimals decimals places) :=
  ⟨exists_laysOut_fillInteger placed digits, trimmed_fillDecimals each⟩

example : fillInteger "5550199".toList "#00-?0\"00".toList none = "555-01\"99".toList := by decide
example : fillDecimals "10400".toList "?0#?#".toList = "104 ".toList := by decide

/-- More digits than places, with text between the places, and a zero that stays for the one after it. -/
theorem templates_keep_digits_crowded :
    "0-#".toList.any isPlaceholder = true ∧ "100".toList.length = "#0?".toList.length ∧
    (∃ shares, LaysOut "0-#".toList shares (fillInteger "12345".toList "0-#".toList none) ∧
      Shared (placeholders "0-#".toList) "12345".toList shares) ∧
    Trimmed "100".toList "#0?".toList (fillDecimals "100".toList "#0?".toList) :=
  ⟨by decide, by decide, templates_keep_digits "12345".toList (by decide) (by decide)⟩

end Spreadsheet.Format
