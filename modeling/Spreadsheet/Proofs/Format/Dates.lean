import Mathlib.Data.Bool.AllAny
import Spreadsheet.Proofs.Calendar.Typed
import Spreadsheet.Proofs.Format.Literals
import Spreadsheet.Proofs.Number.Accuracy

/-! Dates under a code that shows all of their digits: what is shown is read back as the date. A date takes the way of
its serial through the sections, but the text is made of its own fields. -/
namespace Spreadsheet

/-- A point in time has a serial, which is finite. -/
theorem Instant.exists_toSerial? {instant : Instant} (long : 100 ≤ instant.date.year) :
    ∃ serial : Number, instant.toSerial? = some serial ∧ serial.isFinite = true := by
  have bounded := instant.bounded
  have days : (instant.ms - serialEpoch).natAbs < 2 ^ (53 : Nat) := by
    unfold serialEpoch
    omega
  refine ⟨_, by rw [toSerial?, reread?_eq long, Option.map_some], ?_⟩
  exact Number.isFinite_div (Number.toInt?_ofInt days) (Number.toInt?_ofInt (by decide)) days (by decide)

namespace Format

/-- Text without characters for private use is left alone. -/
theorem Section.restore_eq_self (extract : Extract) (overrides : List (Nat × List Char)) {text : List Char}
    (plain : ∀ c ∈ text, placeholderIndex? c = none) : restore extract overrides text = text := by
  unfold restore
  induction text with
  | nil => rfl
  | cons c rest ih =>
    have here := plain c List.mem_cons_self
    rw [List.flatMap_cons, ih fun other member => plain other (List.mem_cons_of_mem c member), here]
    rfl

/-- A section for all numbers that shows dates by tokens, none of them of elapsed time, and nothing beside them. -/
structure Section.ShowsDates (section_ : Section) (tokens : List DateToken) : Prop where
  content : section_.content = .dateTime tokens
  condition : section_.condition = none
  indifferent : section_.toExtract.Indifferent
  clock : tokens.any DateToken.isElapsed = false

/-- A date under a code of one section shows as its tokens do. -/
theorem render?_of_showsDates {format : ParsedFormat} {section_ : Section} {tokens : List DateToken} {context : Context}
    {instant : Instant} {text : List Char} (only : format.numericSections = [section_])
    (shows : section_.ShowsDates tokens) (category : context.category ≠ .duration) (long : 100 ≤ instant.date.year)
    (shown : ∀ locale, dateText? tokens (some instant) locale = some text)
    (plain : ∀ c ∈ text, placeholderIndex? c = none) :
    render? (.date (some instant)) format context = some ⟨text, section_.color⟩ := by
  obtain ⟨serial, counted, finite⟩ := Instant.exists_toSerial? long
  obtain ⟨content, condition, ⟨currency, fill⟩, clock⟩ := shows
  have selected : selectSection [section_] serial = some (section_, decide (serial < 0)) := by
    simp [selectSection, condition]
  simp only [render?, Option.bind_some, counted, Option.getD_some, renderNumber?, finite, ↓reduceIte, only, selected,
    content, clock, category, decide_false, Bool.or_self, Bool.false_eq_true, shown, Option.bind_eq_bind]
  simp [finish?, applyCurrency, currency, fill, Section.restore_eq_self section_.toExtract [] plain]

/-- Year, month and day, each with all of its digits. -/
def dayTokens : List DateToken := [.year true, .literal ['-'], .month .padded, .literal ['-'], .day .padded]

/-- Hours that count to twenty-four, minutes and seconds, each with all of its digits. -/
def clockTokens : List DateToken := [.hour true false, .literal [':'], .minute true, .literal [':'], .second true]

theorem exists_showsDay : ∃ section_ : Section, (ParsedFormat.parse "yyyy-MM-dd" .date).numericSections = [section_] ∧
    section_.ShowsDates dayTokens :=
  ⟨_, rfl, rfl, rfl, ⟨rfl, rfl⟩, rfl⟩

/-- In upper case, a run of two is a month wherever it stands; in lower case it is minutes here, as hours come before
it. -/
theorem exists_showsDayClock : ∃ section_ : Section,
    (ParsedFormat.parse "yyyy-MM-dd HH:mm:ss" .date).numericSections = [section_] ∧
      section_.ShowsDates (dayTokens ++ .literal [' '] :: clockTokens) :=
  ⟨_, rfl, rfl, rfl, ⟨rfl, rfl⟩, rfl⟩

theorem fieldText_of_nonneg (width : Nat) {value : Int} (positive : 0 ≤ value) :
    fieldText width (some value) = Text.padLeft width '0' (Text.numeral value.toNat) := by
  obtain ⟨count, rfl⟩ := Int.eq_ofNat_of_zero_le positive
  simp only [fieldText, Option.map_some, Option.getD_some, Text.signedNumeral, Int.natAbs_natCast, Int.toNat_natCast]
  rw [if_neg (Int.not_lt.mpr positive)]

private theorem fieldText_two (value : Nat) : fieldText 2 (some (value : Int)) = Text.twoDigits value :=
  fieldText_of_nonneg 2 (Int.natCast_nonneg value)

theorem dateText?_append {instant : Option Instant} {locale : Locale} {first second : List DateToken}
    {front back : List Char} (before : dateText? first instant locale = some front)
    (after : dateText? second instant locale = some back) :
    dateText? (first ++ second) instant locale = some (front ++ back) := by
  simp only [dateText?, Option.map_eq_some_iff] at before after ⊢
  obtain ⟨texts, all, rfl⟩ := before
  obtain ⟨more, others, rfl⟩ := after
  exact ⟨texts ++ more, by simp [List.mapM_append, all, others], List.flatten_append⟩

section shown
variable {instant : Instant}

theorem dateText?_dayTokens (long : 100 ≤ instant.date.year) (locale : Locale) :
    dateText? dayTokens (some instant) locale = some instant.isoDay := by
  have year := fieldText_of_nonneg 4 (show 0 ≤ instant.date.year by omega)
  simp [dateText?, dayTokens, dateTokenText?, year, fieldText_two, Instant.isoDay]

theorem dateText?_clockTokens (locale : Locale) :
    dateText? clockTokens (some instant) locale = some instant.isoClock := by
  simp [dateText?, clockTokens, dateTokenText?, clockWidth, fieldText_two, Instant.isoClock]

/-- Digits do not stand for literals. -/
theorem plain_of_isDigit {c : Char} (digit : c.isDigit = true) : placeholderIndex? c = none := by
  have code := Text.toNat_of_isDigit digit
  rw [placeholderIndex?, if_neg (by omega)]

theorem plain_field {width value : Nat} : ∀ c ∈ Text.padLeft width '0' (Text.numeral value), placeholderIndex? c = none :=
  fun _ member => plain_of_isDigit (Text.isDigit_of_mem_padLeft member)

theorem plain_numeral (value : Nat) : ∀ c ∈ Text.numeral value, placeholderIndex? c = none :=
  fun _ member => plain_of_isDigit (Text.isDigit_of_mem_numeral member)

theorem plain_text (x : Number) : ∀ c ∈ x.text, placeholderIndex? c = none := by
  cases finite : x.isFinite with
  | true =>
    have marks : ∀ c ∈ Number.textMarks, placeholderIndex? c = none := List.all_iff_forall_prop.mp (by decide)
    intro c member
    exact ((Number.mem_text finite).2 c member).elim plain_of_isDigit (marks c)
  | false =>
    cases x with
    | nan => exact List.all_iff_forall_prop.mp (by decide)
    | infinite negative => cases negative <;> exact List.all_iff_forall_prop.mp (by decide)
    | finite negative s e canonical => cases finite

private theorem plain_isoDay : ∀ c ∈ instant.isoDay, placeholderIndex? c = none := by
  simp only [Instant.isoDay, List.forall_mem_append, List.forall_mem_cons]
  exact ⟨plain_field, by decide, plain_field, by decide, plain_field⟩

private theorem plain_isoClock : ∀ c ∈ instant.isoClock, placeholderIndex? c = none := by
  simp only [Instant.isoClock, List.forall_mem_append, List.forall_mem_cons]
  exact ⟨plain_field, by decide, plain_field, by decide, plain_field⟩

end shown

/-- A date whose year has three or four digits, shown with all of the digits of its day and clock, is typed text for the
same date, unless it has something below a second; shown with those of its day alone, it is text for the midnight that
the day starts with. This holds in any locale, and whatever the renderer has been asked before. -/
theorem Renderer.detect_format_date {renderer : Renderer} (reachable : renderer.Reachable) (options : RenderOptions)
    {instant : Instant} (long : 100 ≤ instant.date.year) (short : instant.date.year ≤ 9999)
    (whole : instant.millisecond = 0) :
    CellValue.detect true CellValue.readDate
        (renderer.format (.date (some instant)) ⟨.date, "yyyy-MM-dd HH:mm:ss"⟩ options).1.text =
      some (.date (some instant)) ∧
    CellValue.detect true CellValue.readDate
        (renderer.format (.date (some instant)) ⟨.date, "yyyy-MM-dd"⟩ options).1.text =
      some (.date (some instant.midnight)) := by
  obtain ⟨day, onlyDay, showsDay⟩ := exists_showsDay
  obtain ⟨dayClock, onlyDayClock, showsDayClock⟩ := exists_showsDayClock
  have dayShown := dateText?_dayTokens long
  have dayClockShown (locale : Locale) : dateText? (dayTokens ++ .literal [' '] :: clockTokens) (some instant) locale =
      some (instant.isoDay ++ ' ' :: instant.isoClock) := by
    have space : dateText? [.literal [' ']] (some instant) locale = some [' '] := rfl
    exact dateText?_append (dayShown locale) (dateText?_append space (dateText?_clockTokens locale))
  have dayClockPlain : ∀ c ∈ instant.isoDay ++ ' ' :: instant.isoClock, placeholderIndex? c = none := by
    simp only [List.forall_mem_append, List.forall_mem_cons]
    exact ⟨plain_isoDay, by decide, plain_isoClock⟩
  constructor
  · rw [reachable.faithful.format_eq,
      render?_of_showsDates onlyDayClock showsDayClock (by simp) long dayClockShown dayClockPlain]
    exact CellValue.detect_isoDay_isoClock long short true whole
  · rw [reachable.faithful.format_eq, render?_of_showsDates onlyDay showsDay (by simp) long dayShown plain_isoDay]
    exact CellValue.detect_isoDay long short true

/-- A leap day in the afternoon. -/
theorem Renderer.detect_format_leap_day :
    let instant : Instant := ⟨1709211909000, by decide⟩
    (100 ≤ instant.date.year ∧ instant.date.year ≤ 9999 ∧ instant.millisecond = 0) ∧
    CellValue.detect true CellValue.readDate
        ((new .enUs).format (.date (some instant)) ⟨.date, "yyyy-MM-dd HH:mm:ss"⟩ {}).1.text =
      some (.date (some instant)) ∧
    CellValue.detect true CellValue.readDate
        ((new .enUs).format (.date (some instant)) ⟨.date, "yyyy-MM-dd"⟩ {}).1.text =
      some (.date (some ⟨1709164800000, by decide⟩)) := by
  intro instant
  have long : 100 ≤ instant.date.year := by decide
  have short : instant.date.year ≤ 9999 := by decide
  have whole : instant.millisecond = 0 := by decide
  exact ⟨⟨long, short, whole⟩, Renderer.detect_format_date ⟨.enUs, [], rfl⟩ {} long short whole⟩

end Format
end Spreadsheet
