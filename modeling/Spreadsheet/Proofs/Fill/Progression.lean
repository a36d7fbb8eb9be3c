import Mathlib.Data.List.TakeWhile
import Spreadsheet.Fill.Pattern
import Spreadsheet.Proofs.Number.Division
import Spreadsheet.Proofs.Number.Parts

/-! A run of whole numbers a constant step apart goes on by this step, and so does a run of texts that end in such
numbers. The reckoning is that of numbers of limited precision, which is exact here. -/
namespace Spreadsheet
attribute [local instance (high)] instPowNat

/-- A value stands for a whole number: it is this number, or it is a text of a given head and of digits that tell the
number. -/
inductive CellValue.Counts : Option (List Char) → CellValue → Int → Prop
  | number {value : Number} {k : Int} (whole : value.toInt? = some k) : Counts none (.number value) k
  | text {content : String} {head digits : List Char} (numeral : Text.allDigits digits = true)
      (written : content.toList = head ++ digits) : Counts (some head) (.text content) (Text.digitsValue digits)

/-- Whole numbers a constant step apart, as numbers or at the end of texts with one head. The head is on one line and does
not end in a digit. -/
structure Progression where
  head : Option (List Char)
  base : Int
  step : Int
  moves : step ≠ 0
  plain : ∀ text ∈ head, text.any Text.isLineBreak = false ∧ ∀ c ∈ text.getLast?, c.isDigit = false

namespace Progression
variable {progression : Progression} {place first : Int} {index length : Nat}

def value (progression : Progression) (place : Int) : Int := progression.base + progression.step * place

/-- The number at a place can be reckoned with exactly, and it can stand at the end of a text if it has to. -/
def Fits (progression : Progression) (place : Int) : Prop :=
  (progression.value place).natAbs < 2 ^ (52 : Nat) ∧ (progression.head.isSome = true → 0 ≤ progression.value place)

/-- The same numbers counted from another place on, in either order. -/
def countedFrom (progression : Progression) (first : Int) (backward : Bool) : Progression :=
  { progression with
    base := progression.value first
    step := if backward then -progression.step else progression.step
    moves := by
      split
      · exact Int.neg_ne_zero.mpr progression.moves
      · exact progression.moves }

theorem value_countedFrom (progression : Progression) (first : Int) (backward : Bool) (place : Int) :
    (progression.countedFrom first backward).value place =
      progression.value (if backward then first - place else first + place) := by
  cases backward <;> simp only [countedFrom, value, Bool.false_eq_true, ↓reduceIte] <;> ring

theorem fits_countedFrom {backward : Bool} :
    (progression.countedFrom first backward).Fits place ↔
      progression.Fits (if backward then first - place else first + place) := by
  unfold Fits
  rw [value_countedFrom]
  rfl

/-- Small numbers lie few steps apart. -/
theorem Fits.natAbs_lt (start : progression.Fits 0) (stop : progression.Fits place) :
    (progression.step * place).natAbs < 2 ^ (53 : Nat) ∧ place.natAbs < 2 ^ (53 : Nat) := by
  have apart : (progression.step * place).natAbs < 2 ^ (53 : Nat) := by
    have low := start.1
    have high := stop.1
    unfold value at low high
    rw [Int.mul_zero] at low
    omega
  refine ⟨apart, Nat.lt_of_le_of_lt ?_ apart⟩
  rw [Int.natAbs_mul]
  exact Nat.le_mul_of_pos_left _ (Int.natAbs_pos.mpr progression.moves)

/-- What a pattern reckons some places after the first number is exact. -/
theorem toInt?_reached {start step : Number} (starts : start.toInt? = some (progression.value 0))
    (steps : step.toInt? = some progression.step) (low : progression.Fits 0)
    (high : progression.Fits ((length : Int) + index)) :
    (start + step * (.ofNat length + .ofNat index)).toInt? = some (progression.value ((length : Int) + index)) := by
  obtain ⟨apart, few⟩ := low.natAbs_lt high
  have count := Number.toInt?_add (Number.toInt?_ofNat (k := length) (by omega))
    (Number.toInt?_ofNat (k := index) (by omega)) few
  have result := Number.toInt?_add starts (Number.toInt?_mul steps count apart)
  rw [show progression.value 0 + progression.step * ((length : Int) + index) =
    progression.value ((length : Int) + index) by simp [value]] at result
  exact result (by have := high.1; omega)

end Progression

namespace CellValue.Counts
variable {head : Option (List Char)} {a b : CellValue} {k l : Int}

/-- Equal values stand for one number. -/
theorem eq_of_same (first : a.Counts head k) (second : b.Counts head l) (same : a = b ∨ a.same b = true) : k = l := by
  cases first with
  | number whole =>
    cases second with
    | number other =>
      simp only [CellValue.number.injEq, CellValue.same, Bool.or_eq_true, decide_eq_true_eq] at same
      rcases same with rfl | rfl | equal
      · exact Option.some.inj (whole.symm.trans other)
      · exact Option.some.inj (whole.symm.trans other)
      · rw [Number.same, beq_iff_eq, Number.compare?_of_toInt? whole other, Option.some.injEq] at equal
        exact Int.compare_eq_eq.mp equal
  | text numeral written =>
    cases second with
    | text _ other =>
      simp only [CellValue.text.injEq, CellValue.same, beq_iff_eq, or_self] at same
      subst same
      rw [List.append_cancel_left (written.symm.trans other)]

end CellValue.Counts

/-- Cells of different values are different, however styles and rich texts are compared. -/
theorem CellEquality.same_of_present (equality : CellEquality) {first second : Cell} {a b : Content CellValue}
    (one : first.value = .present a) (other : second.value = .present b)
    (same : equality.same (some first) (some second) = true) : a.value = b.value ∨ a.value.same b.value = true := by
  have occupied {cell : Cell} {content : Content CellValue} (given : cell.value = .present content) :
      (some cell).filter (!·.isEmpty) = some cell := by
    simp [Option.filter, Cell.isEmpty, given, Aspect.toOption, Aspect.content?]
  simp only [CellEquality.same, occupied one, occupied other, one, other, Aspect.same, Content.isCopy, Bool.and_eq_true,
    Bool.or_eq_true, beq_iff_eq] at same
  rcases same.1.1.1 with copy | equal
  · exact .inl copy.2
  · exact .inr equal

namespace FillPattern
variable {progression : Progression} {equality : CellEquality} {cells : List (Option Cell)} {numbers : List Number}

/-- The cells of a run stand for the numbers of a progression, from its place zero on. -/
def Shows (progression : Progression) (cells : List (Option Cell)) : Prop :=
  ∀ (index : Nat) entry, cells[index]? = some entry → ∃ (cell : Cell) (content : Content CellValue), entry = some cell ∧
    cell.value = .present content ∧ content.value.Counts progression.head (progression.value index)

theorem valuesOf?_cons {α : Type} {f : CellValue → Option α} {first : Cell} {content : Content CellValue}
    (present : first.value = .present content) :
    valuesOf? f (some first :: cells) = (f content.value).bind fun found => (valuesOf? f cells).map (found :: ·) := by
  rw [valuesOf?, List.mapM_cons]
  simp only [Option.bind_some, Aspect.toOption, Aspect.content?, present, Option.map_some]
  cases f content.value with
  | none => rfl
  | some found =>
    change (valuesOf? f cells).bind (fun rest => some (found :: rest)) = _
    cases valuesOf? f cells <;> rfl

/-- What every value of a run has can be listed. -/
theorem exists_valuesOf? {α : Type} {f : CellValue → Option α} (P : Nat → α → Prop)
    (given : ∀ index entry, cells[index]? = some entry → ∃ (cell : Cell) (content : Content CellValue) (found : α),
      entry = some cell ∧ cell.value = .present content ∧ f content.value = some found ∧ P index found) :
    ∃ values, valuesOf? f cells = some values ∧ values.length = cells.length ∧
      ∀ index found, values[index]? = some found → P index found := by
  induction cells generalizing P with
  | nil => exact ⟨[], rfl, rfl, by simp⟩
  | cons first rest ih =>
    obtain ⟨cell, content, found, rfl, present, reads, holds⟩ := given 0 first rfl
    obtain ⟨values, listed, length, all⟩ := ih (fun index => P (index + 1)) fun index entry place =>
      given (index + 1) entry (by simpa using place)
    refine ⟨found :: values, ?_, by simp [length], ?_⟩
    · rw [valuesOf?_cons present, reads, listed]
      rfl
    · intro index other place
      cases index with
      | zero => exact Option.some.inj place ▸ holds
      | succ index => exact all index other (by simpa using place)

/-- Numbers are those of a progression, from its place zero on. -/
def Follows (progression : Progression) (numbers : List Number) : Prop :=
  ∀ (index : Nat) number, numbers[index]? = some number → number.toInt? = some (progression.value index)

/-- No tolerance is passed by what is zero. -/
theorem not_lt_abs_of_zero {tolerance x : Number} (finite : tolerance.isFinite = true)
    (positive : tolerance.isNegative = false) (zero : x.toInt? = some 0) : ¬tolerance < x.abs := by
  obtain ⟨u, units⟩ := Number.exists_units_of_isNegative finite positive
  rw [Number.lt_iff_units units (Number.toInt?_eq_some_iff.mp (Number.toInt?_abs zero)), Int.natAbs_zero, Nat.cast_zero,
    Int.zero_mul, Int.not_lt]
  exact Int.natCast_nonneg u

section numbers
variable (follows : Follows progression numbers)
  (fits : ∀ index : Nat, index < numbers.length → progression.Fits index)
include follows fits

/-- Neighbours differ by the step exactly. -/
theorem toInt?_difference (index : Nat) {low high : Number} (first : numbers[index]? = some low)
    (second : numbers[index + 1]? = some high) : (high - low).toInt? = some progression.step := by
  have below := (fits index (List.getElem?_eq_some_iff.mp first).1).1
  have above := (fits (index + 1) (List.getElem?_eq_some_iff.mp second).1).1
  have difference : progression.value (index + 1 : Nat) - progression.value index = progression.step := by
    simp only [Progression.value, Nat.cast_add, Nat.cast_one]
    ring
  rw [← difference]
  exact Number.toInt?_sub (follows _ _ second) (follows _ _ first) (by omega)

/-- So they are a constant step apart, whatever the tolerance is. -/
theorem exists_constantStep? (tolerance : Number) (finite : tolerance.isFinite = true)
    (positive : tolerance.isNegative = false) (several : 2 ≤ numbers.length) :
    ∃ step, constantStep? tolerance numbers = some step ∧ step.toInt? = some progression.step := by
  obtain ⟨first, second, rest, rfl⟩ : ∃ first second rest, numbers = first :: second :: rest := by
    match numbers, several with
    | first :: second :: rest, _ => exact ⟨first, second, rest, rfl⟩
  have step := toInt?_difference follows fits 0 rfl rfl
  have moving : (second - first).same 0 = false := by
    rw [Bool.eq_false_iff, ne_eq, Number.same_iff_units (Number.toInt?_eq_some_iff.mp step) Number.zero_units]
    exact Int.mul_ne_zero progression.moves (by exact_mod_cast Number.unitsPerOne_pos.ne')
  refine ⟨second - first, ?_, step⟩
  dsimp only [constantStep?]
  rw [if_neg]
  simp only [moving, Bool.false_or, Bool.not_eq_true, List.any_eq_false, decide_eq_false_iff_not]
  intro pair member
  -- The pair stands one place on in the whole list, as the first number has no difference before it.
  obtain ⟨index, place⟩ := List.mem_iff_getElem?.mp member
  obtain ⟨low, high⟩ := List.getElem?_zip_eq_some.mp place
  have again := toInt?_difference follows fits (index + 1) (by simpa using low) (by simpa using high)
  have steady := Number.toInt?_sub again step (by rw [Int.sub_self]; decide)
  rw [Int.sub_self] at steady
  exact not_lt_abs_of_zero finite positive steady

end numbers

theorem exists_numberOf? {value : CellValue} {k : Int} (counts : value.Counts none k) :
    ∃ number, numberOf? value = some number ∧ number.toInt? = some k := by
  cases counts with
  | number whole => exact ⟨_, rfl, whole⟩

/-- The digits at the end of a text are told from a head that does not end in one. -/
theorem splitSuffix?_append {head digits : List Char} (line : head.any Text.isLineBreak = false)
    (ends : ∀ c ∈ head.getLast?, c.isDigit = false) (numeral : Text.allDigits digits = true) :
    splitSuffix? (head ++ digits) = some (head, digits) := by
  simp only [Text.allDigits, Bool.and_eq_true, Bool.not_eq_true', List.all_eq_true] at numeral
  have run : ((head ++ digits).reverse.takeWhile Char.isDigit).reverse = digits := by
    have front := Text.span_append (p := Char.isDigit)
      (fun c member => numeral.2 c (List.mem_reverse.mp member)) (by rwa [List.head?_reverse])
    rw [List.span_eq_takeWhile_dropWhile, Prod.mk.injEq, ← List.reverse_append] at front
    rw [front.1, List.reverse_reverse]
  unfold splitSuffix?
  rw [run]
  simp [numeral.1, line]

theorem exists_suffixOf? {value : CellValue} {head : List Char} {k : Int} (counts : value.Counts (some head) k)
    (line : head.any Text.isLineBreak = false) (ends : ∀ c ∈ head.getLast?, c.isDigit = false)
    (small : k.natAbs < 2 ^ (52 : Nat)) :
    ∃ digits, suffixOf? value = some (head, digits) ∧ (Text.digitsValue digits : Int) = k := by
  cases counts with
  | @text content _ digits numeral written =>
    have safe : Text.digitsValue digits < Number.safeBound := by
      unfold Number.safeBound
      omega
    refine ⟨digits, ?_, rfl⟩
    simp [suffixOf?, written, splitSuffix?_append line ends numeral, Option.filter, safe]

theorem not_number_of_counts {value : CellValue} {head : List Char} {k : Int} (counts : value.Counts (some head) k) :
    numberOf? value = none ∧ dateOf? value = none := by
  cases counts with
  | text numeral written => exact ⟨rfl, rfl⟩

section showing
variable (shows : Shows progression cells) (several : 2 ≤ cells.length)
  (fits : ∀ index : Nat, index < cells.length → progression.Fits index)
include shows

/-- A run of numbers lists them. -/
theorem exists_numbers (numbers : progression.head = none) :
    ∃ values, valuesOf? numberOf? cells = some values ∧ values.length = cells.length ∧ Follows progression values := by
  refine exists_valuesOf? (fun index number => Number.toInt? number = some (progression.value index))
    fun index entry place => ?_
  obtain ⟨cell, content, same, present, counts⟩ := shows index entry place
  obtain ⟨number, reads, whole⟩ := exists_numberOf? (numbers ▸ counts)
  exact ⟨cell, content, number, same, present, reads, whole⟩

include fits

/-- A run of texts that end in numbers lists their heads, which are one, and these numbers. -/
theorem exists_suffixes {head : List Char} (texts : progression.head = some head) :
    ∃ suffixes, valuesOf? suffixOf? cells = some suffixes ∧ suffixes.length = cells.length ∧
      (∀ suffix ∈ suffixes, suffix.1 = head) ∧
      Follows progression (suffixes.map fun suffix => .ofNat (Text.digitsValue suffix.2)) := by
  obtain ⟨line, ends⟩ := progression.plain head texts
  obtain ⟨suffixes, listed, length, all⟩ := exists_valuesOf? (f := suffixOf?)
      (fun index suffix => suffix.1 = head ∧ (Text.digitsValue suffix.2 : Int) = progression.value index)
      fun index entry place => by
    obtain ⟨cell, content, same, present, counts⟩ := shows index entry place
    have small := (fits index (List.getElem?_eq_some_iff.mp place).1).1
    obtain ⟨digits, reads, value⟩ := exists_suffixOf? (texts ▸ counts) line ends small
    exact ⟨cell, content, (head, digits), same, present, reads, rfl, value⟩
  refine ⟨suffixes, listed, length, fun suffix member => ?_, fun index number place => ?_⟩
  · obtain ⟨index, place⟩ := List.mem_iff_getElem?.mp member
    exact (all index suffix place).1
  · rw [List.getElem?_map, Option.map_eq_some_iff] at place
    obtain ⟨suffix, place, rfl⟩ := place
    have small := (fits index (length ▸ (List.getElem?_eq_some_iff.mp place).1)).1
    have value := (all index suffix place).2
    rw [Number.toInt?_ofNat (by omega), value]

include several

/-- A run of numbers has the pattern of a constant step. -/
theorem exists_detectLinear? (template : Cell) (numbers : progression.head = none) :
    ∃ start step, detectLinear? template cells = some (linear template start step cells.length) ∧
      start.toInt? = some (progression.value 0) ∧ step.toInt? = some progression.step := by
  obtain ⟨values, listed, length, follows⟩ := exists_numbers shows numbers
  rw [← length] at several fits
  obtain ⟨step, steady, steps⟩ := exists_constantStep? follows fits stepTolerance (by decide +kernel)
    (by decide +kernel) several
  obtain ⟨start, first⟩ : ∃ start, values[0]? = some start := ⟨_, List.getElem?_eq_getElem (by omega)⟩
  refine ⟨start, step, ?_, follows 0 start first, steps⟩
  simp [detectLinear?, listed, steady, List.head?_eq_getElem?, first, length]

/-- A run of texts that end in numbers has the pattern of a numbered text. -/
theorem exists_detectSuffix? (template : Cell) {head : List Char} (texts : progression.head = some head) :
    ∃ width start step, detectSuffix? template cells = some (textSuffix template head width start step cells.length) ∧
      start.toInt? = some (progression.value 0) ∧ step.toInt? = some progression.step := by
  obtain ⟨suffixes, listed, length, heads, follows⟩ := exists_suffixes shows fits texts
  rw [← length] at several fits
  obtain ⟨step, steady, steps⟩ := exists_constantStep? follows (by simpa using fits) 0 (by decide +kernel)
    (by decide +kernel) (by simpa using several)
  obtain ⟨suffix, first⟩ : ∃ suffix, suffixes.head? = some suffix := by
    rw [List.head?_eq_getElem?]
    exact ⟨_, List.getElem?_eq_getElem (by omega)⟩
  obtain rfl := heads suffix (List.mem_of_head? first)
  have same : suffixes.any (·.1 != suffix.1) = false := by simpa using heads
  refine ⟨suffix.2.length, .ofNat (Text.digitsValue suffix.2), step, ?_, follows 0 _ ?_, steps⟩
  · simp [detectSuffix?, listed, first, same, steady, length]
  · rw [← List.head?_eq_getElem?, List.head?_map, first, Option.map_some]

end showing

/-- A run of numbers that change is not constant. -/
theorem detect_eq (equality : CellEquality) {first : Cell} {rest : List (Option Cell)}
    (shows : Shows progression (some first :: rest)) (several : 0 < rest.length) :
    detect equality (some first :: rest) =
      ((detectLinear? first (some first :: rest)).or ((detectDate? first (some first :: rest)).or
        (detectSuffix? first (some first :: rest)))).getD (cycle (some first :: rest)) := by
  have moving : ¬rest.all (equality.same · (some first)) = true := by
    intro constant
    obtain ⟨_, content, ⟨⟩, present, counts⟩ := shows 0 _ rfl
    obtain ⟨entry, place⟩ : ∃ entry, rest[0]? = some entry := ⟨_, List.getElem?_eq_getElem several⟩
    obtain ⟨second, other, rfl, given, follows⟩ := shows 1 entry place
    have same := equality.same_of_present given present (List.all_eq_true.mp constant _ (List.mem_of_getElem? place))
    have equal := follows.eq_of_same counts same
    simp [Progression.value, progression.moves] at equal
  rw [detect, if_neg moving]

/-- The text that is made for a number that is not negative. -/
theorem counts_text {reached : Number} {head : List Char} (width : Nat) {place : Int}
    (is : reached.toInt? = some (progression.value place)) (fits : progression.Fits place)
    (texts : progression.head = some head) :
    CellValue.Counts (some head) (.text (String.ofList (head ++ Text.padLeft width '0' reached.abs.text)))
      (progression.value place) := by
  have positive := fits.2 (by rw [texts]; rfl)
  have small := fits.1
  have magnitude := Number.toInt?_abs is
  obtain ⟨number, value⟩ := Int.eq_ofNat_of_zero_le positive
  rw [value, Int.natAbs_natCast] at magnitude small
  have written : CellValue.Counts (some head)
      (.text (String.ofList (head ++ Text.padLeft width '0' (Text.numeral number)))) _ :=
    .text (Text.allDigits_padLeft width number) String.toList_ofList
  rw [value, Number.text_of_toInt? magnitude (by omega)]
  rwa [Text.digitsValue_padLeft] at written

/-- A run that shows a progression goes on with it. What is made has the template of the first cell. -/
theorem exists_generate_detect (equality : CellEquality) (shows : Shows progression cells) (several : 2 ≤ cells.length)
    (fits : ∀ index : Nat, index < cells.length → progression.Fits index) {index : Nat}
    (goes : progression.Fits ((cells.length : Int) + index)) :
    ∃ first value, cells[0]? = some (some first) ∧
      (detect equality cells).generate (.ofNat index) = some (templated first value) ∧
      value.Counts progression.head (progression.value ((cells.length : Int) + index)) := by
  obtain ⟨entry, rest, rfl⟩ := List.exists_cons_of_length_pos (Nat.lt_of_lt_of_le Nat.zero_lt_two several)
  obtain ⟨first, content, rfl, present, counts⟩ := shows 0 entry rfl
  have low : progression.Fits 0 := fits 0 (by omega)
  rw [detect_eq equality shows (Nat.lt_of_succ_le (by simpa using several))]
  cases kind : progression.head with
  | none =>
    obtain ⟨start, step, linear, starts, steps⟩ := exists_detectLinear? shows several fits first kind
    rw [linear]
    exact ⟨first, _, rfl, rfl, .number (Progression.toInt?_reached starts steps low goes)⟩
  | some head =>
    obtain ⟨width, start, step, suffix, starts, steps⟩ := exists_detectSuffix? shows several fits first kind
    -- The patterns that are tried before fail on the first cell, which is a text.
    have texts := not_number_of_counts (kind ▸ counts)
    have linear : detectLinear? first (some first :: rest) = none := by
      simp [detectLinear?, valuesOf?_cons present, texts.1]
    have date : detectDate? first (some first :: rest) = none := by
      simp [detectDate?, valuesOf?_cons present, texts.2]
    rw [linear, date, suffix]
    exact ⟨first, _, rfl, rfl, counts_text width (Progression.toInt?_reached starts steps low goes) goes kind⟩

end FillPattern

end Spreadsheet
