import Spreadsheet.Proofs.Format.Dates
import Spreadsheet.Proofs.Format.Signs
import Spreadsheet.Proofs.Number.Division

/-! Durations. Without a format, under `General` and under a code for elapsed time they show the same hours, minutes and
seconds, and typed text of this form is read as the duration it shows. -/
namespace Spreadsheet
attribute [local instance (high)] instPowNat

/-- Hours, minutes and seconds, with a minus sign before them or not. -/
def spanText (negative : Bool) (hours minutes seconds : Nat) : List Char :=
  (if negative then ['-'] else []) ++ Text.numeral hours ++ ':' :: Text.twoDigits minutes ++
    ':' :: Text.twoDigits seconds

section units
variable {ms : Number} {n : Nat} (whole : ms.toInt? = some (n : Int)) (small : n < 2 ^ (53 : Nat))
include whole small

section unit
variable {unit : Nat} (many : 2 ≤ unit) (bounded : unit < 2 ^ (53 : Nat))
include many bounded

/-- How often a unit is in a duration. -/
theorem toInt?_units : (ms / .ofNat unit).floor.toInt? = some ((n / unit : Nat) : Int) :=
  Number.toInt?_floor_div whole (Number.toInt?_ofNat bounded) small many bounded.le

theorem text_units : (ms / .ofNat unit).floor.text = Text.numeral (n / unit) :=
  Number.text_of_toInt? (toInt?_units whole small many bounded) (Nat.lt_of_le_of_lt (Nat.div_le_self n unit) small)

/-- How often a unit is in what is left of a duration when sixty of them make up a greater one. -/
theorem text_units_mod : ((ms / .ofNat unit).floor % 60).text = Text.numeral (n / unit % 60) := by
  have quotient : n / unit < 2 ^ (53 : Nat) := Nat.lt_of_le_of_lt (Nat.div_le_self n unit) small
  have rest := Number.toInt?_rem (toInt?_units whole small many bounded) (Number.toInt?_ofNat (k := 60) (by decide))
    quotient (by decide)
  exact Number.text_of_toInt? rest (Nat.lt_trans (Nat.mod_lt _ (by decide)) (by decide))

end unit

theorem text_parts :
    (ms / .ofNat msPerHour).floor.text = Text.numeral (n / msPerHour) ∧
    ((ms / .ofNat msPerMinute).floor % 60).text = Text.numeral (n / msPerMinute % 60) ∧
    ((ms / .ofNat msPerSecond).floor % 60).text = Text.numeral (n / msPerSecond % 60) :=
  ⟨text_units whole small (by decide) (by decide), text_units_mod whole small (by decide) (by decide),
    text_units_mod whole small (by decide) (by decide)⟩

end units

section duration
variable {ms : Number} {d : Int} (whole : ms.toInt? = some d) (small : d.natAbs < 2 ^ (53 : Nat))
include whole small

/-- The span that a duration shows: what is less than a second is dropped, and the sign is kept. -/
theorem CellValue.clock_eq : CellValue.clock ms =
    spanText (decide (d < 0)) (d.natAbs / msPerHour) (d.natAbs / msPerMinute % 60) (d.natAbs / msPerSecond % 60) := by
  have sign : ms < 0 ↔ d < 0 := Number.lt_iff whole (Number.toInt?_ofNat (k := 0) (by decide))
  obtain ⟨hours, minutes, seconds⟩ := text_parts (Number.toInt?_abs whole) small
  simp only [clock, twoPlaces, hours, minutes, seconds, sign]
  simp [spanText, Text.twoDigits]

end duration

namespace CellValue

/-- Below sixty, two digits are read as they were written. -/
theorem sixtieths?_twoDigits {value : Nat} (less : value < 60) (rest : List Char) :
    sixtieths? (Text.twoDigits value ++ rest) = some (.ofNat value, rest) := by
  have digits : ∀ value < 60, Text.twoDigits value = [Nat.digitChar (value / 10), Nat.digitChar (value % 10)] ∧
      (Nat.digitChar (value / 10)).isDigit = true ∧ (Nat.digitChar (value / 10)).toNat ≤ '5'.toNat ∧
      (Nat.digitChar (value % 10)).isDigit = true := by decide
  obtain ⟨written, tens, limit, ones⟩ := digits value less
  have read : Text.digitsValue (Text.twoDigits value) = value := Text.digitsValue_padLeft 2 value
  rw [written] at read ⊢
  simp only [List.cons_append, List.nil_append, sixtieths?, tens, ones, read, decide_eq_true limit, Bool.and_self,
    ↓reduceIte]

/-- A duration that is put together of whole hours, minutes and seconds. -/
theorem ofNat_parts {hours minutes seconds : Nat}
    (small : hours * msPerHour + minutes * msPerMinute + seconds * msPerSecond < 2 ^ (53 : Nat)) :
    Number.ofNat hours * .ofNat msPerHour + .ofNat minutes * .ofNat msPerMinute +
        .ofNat seconds * .ofNat msPerSecond =
      .ofInt (hours * msPerHour + minutes * msPerMinute + seconds * msPerSecond : Nat) := by
  have part (count unit : Nat) (positive : 0 < unit) (bounded : unit < 2 ^ (53 : Nat))
      (less : count * unit < 2 ^ (53 : Nat)) :
      (Number.ofNat count * .ofNat unit).toInt? = some (count * unit : Nat) := by
    have few : count < 2 ^ (53 : Nat) := Nat.lt_of_le_of_lt (Nat.le_mul_of_pos_right count positive) less
    have product := Number.toInt?_mul (Number.toInt?_ofNat few) (Number.toInt?_ofNat bounded) (by exact_mod_cast less)
    exact_mod_cast product
  by_cases none : hours * msPerHour + minutes * msPerMinute + seconds * msPerSecond = 0
  · simp only [Nat.add_eq_zero_iff, Nat.mul_eq_zero, msPerHour, msPerMinute, msPerSecond, OfNat.ofNat_ne_zero,
      or_false] at none
    obtain ⟨⟨rfl, rfl⟩, rfl⟩ := none
    decide +kernel
  · have hour := part hours msPerHour (by decide) (by decide) (by omega)
    have minute := part minutes msPerMinute (by decide) (by decide) (by omega)
    have second := part seconds msPerSecond (by decide) (by decide) (by omega)
    have sum := Number.toInt?_add (Number.toInt?_add hour minute (by omega)) second (by omega)
    refine Number.eq_of_toInt? sum ?_ (by exact_mod_cast none)
    rw [Number.toInt?_ofInt (by omega)]
    push_cast
    rfl

/-- Hours of any number of digits, minutes and seconds are read as a duration. -/
theorem detect_spanText (hours : Nat) {minutes seconds : Nat} (minute : minutes < 60) (second : seconds < 60)
    (small : hours * msPerHour + minutes * msPerMinute + seconds * msPerSecond < 2 ^ (53 : Nat)) (formulas : Bool)
    (dateReader : List Char → DateReading) :
    detect formulas dateReader (spanText false hours minutes seconds) =
      some (.duration (.ofInt (hours * msPerHour + minutes * msPerMinute + seconds * msPerSecond : Nat))) := by
  have form : spanText false hours minutes seconds =
      Text.numeral hours ++ ':' :: (Text.twoDigits minutes ++ ':' :: Text.twoDigits seconds) := by
    simp [spanText]
  have last : ∀ c ∈ (spanText false hours minutes seconds).getLast?, Text.isBlank c = false :=
    fun c => not_isBlank_of_mem_getLast?
  have digits := Text.allDigits_numeral hours
  have colon : ':' ∈ ['-', ':'] := by decide
  have parts := ofNat_parts small
  have read : duration? (spanText false hours minutes seconds) =
      some (.ofInt (hours * msPerHour + minutes * msPerMinute + seconds * msPerSecond : Nat)) := by
    have end_ := sixtieths?_twoDigits second []
    rw [List.append_nil] at end_
    rw [form, ← parts]
    unfold duration?
    simp only [spanDigits_mark colon digits, sixtieths?_twoDigits minute, end_, DateText.expect?, Option.bind_eq_bind,
      Option.bind_some, ↓reduceIte, List.isEmpty_nil, List.isEmpty_eq_false_iff.mpr (Text.numeral_ne_nil hours),
      Bool.false_eq_true, Text.digitsValue_numeral]
  rw [form] at last read ⊢
  rw [detect_of_mark colon digits formulas dateReader last, read]

end CellValue

namespace Format

/-- Elapsed hours, minutes and seconds with colons between them. -/
def elapsedTokens : List DateToken :=
  [.elapsed .hours false, .literal [':'], .minute true, .literal [':'], .second true]

theorem elapsedText_elapsedTokens {ms : Number} {n : Nat} (whole : ms.toInt? = some (n : Int))
    (small : n < 2 ^ (53 : Nat)) (locale : Locale) : elapsedText elapsedTokens ms locale =
      spanText false (n / msPerHour) (n / msPerMinute % 60) (n / msPerSecond % 60) := by
  obtain ⟨hours, minutes, seconds⟩ := text_parts whole small
  simp [elapsedText, elapsedTokens, Elapsed.ofMs, Elapsed.tokenText, DateToken.isHour, DateToken.isMinute, padNumber,
    hours, minutes, seconds, spanText, Text.twoDigits, Text.padLeft]

/-- A section for all numbers, in no colour, that shows what its body says and nothing beside it. -/
structure Section.Plain (section_ : Section) : Prop where
  condition : section_.condition = none
  indifferent : section_.toExtract.Indifferent
  color : section_.color = none

theorem exists_general (category : Category) : ∃ section_ : Section,
    (ParsedFormat.parse "General" category).numericSections = [section_] ∧ section_.Plain ∧
      section_.content = .general ∧ section_.body = "General".toList := by
  cases category <;> exact ⟨_, rfl, ⟨rfl, ⟨rfl, rfl⟩, rfl⟩, rfl, rfl⟩

theorem exists_elapsed (category : Category) : ∃ section_ : Section,
    (ParsedFormat.parse "[h]:mm:ss" category).numericSections = [section_] ∧ section_.Plain ∧
      section_.content = .dateTime elapsedTokens := by
  cases category <;> exact ⟨_, rfl, ⟨rfl, ⟨rfl, rfl⟩, rfl⟩, rfl⟩

theorem plain_spanText (negative : Bool) (hours minutes seconds : Nat) :
    ∀ c ∈ spanText negative hours minutes seconds, placeholderIndex? c = none := by
  have field : ∀ c ∈ Text.padLeft 0 '0' (Text.numeral hours), placeholderIndex? c = none := plain_field
  have numeral : ∀ c ∈ Text.numeral hours, placeholderIndex? c = none := by simpa [Text.padLeft] using field
  have sign : ∀ c ∈ (if negative then ['-'] else []), placeholderIndex? c = none := by
    cases negative <;> simp [placeholderIndex?]
  simp only [spanText, List.forall_mem_append, List.forall_mem_cons]
  exact ⟨⟨⟨sign, numeral⟩, by decide, plain_field⟩, by decide, plain_field⟩

/-- Text without placeholders is left alone, but for a sign before it. -/
theorem Section.Plain.finish? {section_ : Section} (plain : section_.Plain) {body : List Char}
    (clean : ∀ c ∈ body, placeholderIndex? c = none) (showSign : Bool) (context : Context) (locale : Locale) :
    Format.finish? section_ body showSign context locale =
      some ⟨(if showSign then ['-'] else []) ++ body, none⟩ := by
  obtain ⟨_, ⟨currency, fill⟩, color⟩ := plain
  have restored : restore section_.toExtract [] ((if showSign then ['-'] else []) ++ body) =
      (if showSign then ['-'] else []) ++ body := by
    refine restore_eq_self _ _ (List.forall_mem_append.mpr ⟨?_, clean⟩)
    cases showSign <;> simp [placeholderIndex?]
  cases showSign <;> simp_all [Format.finish?, applyCurrency]

section duration
variable {ms : Number} {d : Int} (whole : ms.toInt? = some d) (small : d.natAbs < 2 ^ (53 : Nat))
include whole small

/-- A duration under a code of one section: what is picked for its count of days. -/
theorem selectSection_duration {section_ : Section} (unconditional : section_.condition = none) :
    (ms / .ofNat msPerDay).isFinite = true ∧
      selectSection [section_] (ms / .ofNat msPerDay) = some (section_, decide (d < 0)) := by
  have day : (Number.ofNat msPerDay).toInt? = some (msPerDay : Int) := Number.toInt?_ofNat (by decide)
  have sign : ms / .ofNat msPerDay < 0 ↔ d < 0 := Number.div_lt_zero_iff (by decide) (by decide) whole day small
  refine ⟨Number.isFinite_div whole day small (by decide), ?_⟩
  simp [selectSection, unconditional, sign]

theorem render?_general (category : Category) (context : Context) :
    render? (.duration ms) (.parse "General" category) context = some ⟨CellValue.clock ms, none⟩ := by
  obtain ⟨section_, only, plain, content, body⟩ := exists_general category
  obtain ⟨finite, selected⟩ := selectSection_duration whole small plain.condition
  have clean : ∀ c ∈ CellValue.clock ms, placeholderIndex? c = none := by
    rw [CellValue.clock_eq whole small]
    exact plain_spanText _ _ _ _
  have shown (locale : Locale) := plain.finish? clean false context locale
  have split : Text.splitAtIgnoringCase "general".toList "General".toList = some ([], []) := rfl
  simp only [render?, renderNumber?, finite, ↓reduceIte, only, selected, content, body, split]
  simpa [CellValue.isNumber, CellValue.display] using shown _

theorem render?_elapsed (category : Category) (context : Context) :
    render? (.duration ms) (.parse "[h]:mm:ss" category) context = some ⟨CellValue.clock ms, none⟩ := by
  obtain ⟨section_, only, plain, content⟩ := exists_elapsed category
  obtain ⟨finite, selected⟩ := selectSection_duration whole small plain.condition
  have text (locale : Locale) := elapsedText_elapsedTokens (Number.toInt?_abs whole) small locale
  have shown := plain.finish? (plain_spanText false (d.natAbs / msPerHour) (d.natAbs / msPerMinute % 60)
    (d.natAbs / msPerSecond % 60)) (decide (d < 0)) context
  have elapsed : elapsedTokens.any DateToken.isElapsed = true := rfl
  simp only [render?, renderNumber?, finite, ↓reduceIte, only, selected, content, elapsed, Bool.true_or, elapsedMs,
    text, shown, CellValue.clock_eq whole small]
  simp [spanText]

end duration

/-- A duration of a whole count of milliseconds shows the same without a format, under `General` and under `[h]:mm:ss`,
in any category and locale: the hours, minutes and seconds of its whole seconds, with a minus sign if and only if it is
negative. Where nothing is below a second and there is no sign, this is typed text for the same duration. -/
theorem Renderer.format_duration {renderer : Renderer} (reachable : renderer.Reachable) {ms : Number} {d : Int}
    (whole : ms.toInt? = some d) (small : d.natAbs < 2 ^ (53 : Nat)) :
    ∃ hours minutes seconds, minutes < 60 ∧ seconds < 60 ∧ 3600 * hours + 60 * minutes + seconds = d.natAbs / 1000 ∧
      (CellValue.duration ms).display = String.ofList (spanText (decide (d < 0)) hours minutes seconds) ∧
      (∀ category options, (renderer.format (.duration ms) ⟨category, "General"⟩ options).1 =
        ⟨spanText (decide (d < 0)) hours minutes seconds, none⟩) ∧
      (∀ category options, (renderer.format (.duration ms) ⟨category, "[h]:mm:ss"⟩ options).1 =
        ⟨spanText (decide (d < 0)) hours minutes seconds, none⟩) ∧
      (0 ≤ d → 1000 ∣ d → ∀ formulas dateReader,
        CellValue.detect formulas dateReader (spanText (decide (d < 0)) hours minutes seconds) =
          some (.duration (.ofInt d))) := by
  have clock := CellValue.clock_eq whole small
  refine ⟨d.natAbs / msPerHour, d.natAbs / msPerMinute % 60, d.natAbs / msPerSecond % 60, Nat.mod_lt _ (by decide),
    Nat.mod_lt _ (by decide), ?_, ?_, ?_, ?_, ?_⟩
  · unfold msPerHour msPerMinute msPerSecond
    omega
  · rw [CellValue.display, clock]
  · intro category options
    rw [reachable.format_eq, rendered?, CellFormat.parsed, render?_general whole small, clock]
    rfl
  · intro category options
    rw [reachable.format_eq, rendered?, CellFormat.parsed, render?_elapsed whole small, clock]
    rfl
  · intro positive seconds formulas dateReader
    have total : d.natAbs / msPerHour * msPerHour + d.natAbs / msPerMinute % 60 * msPerMinute +
        d.natAbs / msPerSecond % 60 * msPerSecond = d.natAbs := by
      unfold msPerHour msPerMinute msPerSecond
      omega
    have minute : d.natAbs / msPerMinute % 60 < 60 := Nat.mod_lt _ (by decide)
    have second : d.natAbs / msPerSecond % 60 < 60 := Nat.mod_lt _ (by decide)
    have read := CellValue.detect_spanText (d.natAbs / msPerHour) minute second (by rwa [total]) formulas dateReader
    rw [total, Int.natAbs_of_nonneg positive] at read
    rwa [decide_eq_false (Int.not_lt.mpr positive)]

/-- A negative span of less than a second, and one whose hours have four digits. -/
theorem Renderer.format_duration_extremes :
    ((Number.ofInt (-500)).toInt? = some (-500) ∧ (Number.ofInt 4445999000).toInt? = some 4445999000) ∧
    (CellValue.duration (.ofInt (-500))).display = "-0:00:00" ∧
    (∀ category options,
      ((new .enUs).format (.duration (.ofInt (-500))) ⟨category, "[h]:mm:ss"⟩ options).1.text = "-0:00:00".toList) ∧
    ∀ category options, CellValue.detect true CellValue.readDate
        ((new .enUs).format (.duration (.ofInt 4445999000)) ⟨category, "General"⟩ options).1.text =
      some (.duration (.ofInt 4445999000)) := by
  have below : (Number.ofInt (-500)).toInt? = some (-500) := by decide +kernel
  have long : (Number.ofInt 4445999000).toInt? = some 4445999000 := by decide +kernel
  have reachable : (new .enUs).Reachable := ⟨.enUs, [], rfl⟩
  obtain ⟨hours, minutes, seconds, _, _, total, display, _, elapsed, _⟩ :=
    Renderer.format_duration reachable below (by decide)
  obtain ⟨_, _, _, _, _, _, _, general, _, read⟩ := Renderer.format_duration reachable long (by decide)
  obtain ⟨rfl, rfl, rfl⟩ : hours = 0 ∧ minutes = 0 ∧ seconds = 0 := by omega
  refine ⟨⟨below, long⟩, display, fun category options => ?_, fun category options => ?_⟩
  · rw [elapsed category options]
    rfl
  · rw [general category options]
    exact read (by decide) (by decide) true CellValue.readDate

end Format
end Spreadsheet
