import Spreadsheet.Cell.Detection
import Spreadsheet.Proofs.Calendar.Spelled

/-! Days and clocks with all of their digits, typed: they are read as the points in time that they were written for,
and no other kind of value has a text that looks like them. -/
namespace Spreadsheet

namespace Instant
variable (instant : Instant)

/-- Year, month and day with all of their digits. -/
def isoDay : List Char :=
  Text.padLeft 4 '0' (Text.numeral instant.date.year.toNat) ++
    '-' :: (Text.twoDigits instant.date.month ++ '-' :: Text.twoDigits instant.date.day)

/-- Hour, minute and second with all of their digits. -/
def isoClock : List Char :=
  Text.twoDigits instant.hour ++ ':' :: (Text.twoDigits instant.minute ++ ':' :: Text.twoDigits instant.second)

end Instant

namespace DateText

/-- A padded numeral is a field as wide as it is padded. -/
theorem isField_padLeft {least width value : Nat} (enough : least ≤ width) (positive : 0 < width)
    (short : value < 10 ^ width) : IsField least width value (Text.padLeft width '0' (Text.numeral value)) := by
  have length := Text.length_padLeft_numeral positive short
  exact ⟨fun c => Text.isDigit_of_mem_padLeft, length.symm ▸ enough, length.le, Text.digitsValue_padLeft width value⟩

theorem isField_twoDigits {least value : Nat} (enough : least ≤ 2) (short : value < 100) :
    IsField least 2 value (Text.twoDigits value) := isField_padLeft enough (by decide) short

section written
variable {instant : Instant}

theorem spellsClock_isoClock : SpellsClock instant.isoClock instant.hour instant.minute instant.second :=
  .seconds (isField_twoDigits (by decide) (Nat.lt_trans instant.hour_lt (by decide)))
    (isField_twoDigits (by decide) (Nat.lt_trans instant.minute_lt (by decide)))
    (isField_twoDigits (by decide) (Nat.lt_trans instant.second_lt (by decide)))

private theorem isField_month : IsField 1 2 instant.date.month (Text.twoDigits instant.date.month) :=
  isField_twoDigits (by decide) (Nat.lt_of_le_of_lt (Calendar.month_le instant.dayNumber) (by decide))

private theorem isField_day : IsField 1 2 instant.date.day (Text.twoDigits instant.date.day) :=
  isField_twoDigits (by decide) (Nat.lt_of_le_of_lt (Calendar.day_le instant.dayNumber) (by decide))

variable (long : 100 ≤ instant.date.year) (short : instant.date.year ≤ 9999)
include long short

private theorem exists_isField_year : ∃ year : Nat, instant.date.year = year ∧
    IsField 4 4 year (Text.padLeft 4 '0' (Text.numeral instant.date.year.toNat)) := by
  obtain ⟨year, same⟩ := Int.eq_ofNat_of_zero_le (show 0 ≤ instant.date.year by omega)
  refine ⟨year, same, ?_⟩
  rw [same, Int.toNat_natCast]
  exact isField_padLeft (Nat.le_refl 4) (by decide) (by omega)

/-- A day with its clock is read as the point in time, if there is nothing below a second. -/
theorem read?_isoDay_isoClock (whole : instant.millisecond = 0) :
    read? (instant.isoDay ++ ' ' :: instant.isoClock) = some instant := by
  obtain ⟨year, same, field⟩ := exists_isField_year long short
  simp only [Instant.isoDay, List.append_assoc, List.cons_append]
  rw [read?_of_spells (.moment field isField_month isField_day (.inr rfl) spellsClock_isoClock), atFields?, ← same]
  exact instant?_fields long whole

/-- A day alone is read as its start. -/
theorem read?_isoDay : read? instant.isoDay = some instant.midnight := by
  obtain ⟨year, same, field⟩ := exists_isField_year long short
  have fields := @instant?_fields instant.midnight (by simpa using long) (by simp [Instant.millisecond])
  simp only [Instant.date_midnight, Instant.hour, Instant.minute, Instant.second, Instant.timeOfDay_midnight,
    Nat.zero_div, Nat.zero_mod] at fields
  rw [Instant.isoDay, read?_of_spells (.day field isField_month isField_day), atFields?, ← same]
  exact fields

end written
end DateText

namespace CellValue
variable {year rest : List Char}

section mark
variable {mark : Char} (among : mark ∈ ['-', ':'])
include among

/-- Neither a dash nor a colon is in a word for a truth value. -/
private theorem boolean?_of_mark : boolean? (year ++ mark :: rest) = none := by
  have mapped : upperLetter mark ∈ (year ++ mark :: rest).map upperLetter := List.mem_map.mpr ⟨mark, by simp, rfl⟩
  have other : ∀ mark ∈ ['-', ':'], upperLetter mark ∉ "TRUE".toList ∧ upperLetter mark ∉ "FALSE".toList := by
    simp [upperLetter]
  unfold boolean?
  dsimp only
  generalize (year ++ mark :: rest).map upperLetter = word at mapped
  rw [if_neg, if_neg]
  · rintro rfl
    exact (other mark among).2 mapped
  · rintro rfl
    exact (other mark among).1 mapped

variable (digits : Text.allDigits year = true)
include digits

theorem spanDigits_mark (rest : List Char) : Text.spanDigits (year ++ mark :: rest) = (year, mark :: rest) := by
  have other : ∀ mark ∈ ['-', ':'], mark.isDigit = false := by simp
  simp only [Text.allDigits, Bool.and_eq_true, List.all_eq_true] at digits
  exact Text.span_append digits.2 (by simpa using other mark among)

/-- In a number, digits are followed by a point or an exponent. -/
private theorem number?_of_mark (rest : List Char) : number? (year ++ mark :: rest) = none := by
  have read : DecimalNumeral.read? (year ++ mark :: rest) = none := by
    unfold DecimalNumeral.read?
    rw [spanDigits_mark among digits rest]
    rcases List.mem_pair.mp among with rfl | rfl <;> simp [DecimalNumeral.exponent?]
  obtain ⟨c, more, rfl, digit⟩ := Text.exists_cons_of_allDigits digits
  rw [List.cons_append] at read ⊢
  rw [number?, Number.ofDecimal?_of_isDigit digit, read]
  rfl

/-- A typed text that starts with digits and a dash or a colon is a duration if it can be read as one, or else a
date. -/
theorem detect_of_mark (formulas : Bool) (dateReader : List Char → DateReading)
    (last : ∀ c ∈ (year ++ mark :: rest).getLast?, Text.isBlank c = false) :
    detect formulas dateReader (year ++ mark :: rest) = match duration? (year ++ mark :: rest) with
      | some ms => some (.duration ms)
      | none => match dateReader (year ++ mark :: rest) with
        | .valid instant => some (.date (some instant))
        | _ => some (.text (String.ofList (year ++ mark :: rest))) := by
  have number := number?_of_mark among digits rest
  have boolean := @boolean?_of_mark year rest mark among
  obtain ⟨c, more, rfl, digit⟩ := Text.exists_cons_of_allDigits digits
  have first : ∀ d ∈ (c :: more ++ mark :: rest).head?, Text.isBlank d = false := by
    rintro d ⟨⟩
    exact Text.not_isBlank_of_isAlphanum (by simp [Char.isAlphanum, digit])
  have equals : (c == '=') = false := by
    rw [beq_eq_false_iff_ne]
    rintro rfl
    cases digit
  unfold detect
  simp only [Text.trim_eq_self first last, boolean, number]
  exact (if_neg (by simp)).trans ((if_neg (by simp [equals])).trans rfl)

end mark

section digits
variable (digits : Text.allDigits year = true)
include digits

/-- In a duration, digits are followed by a colon. -/
private theorem duration?_of_dash (rest : List Char) : duration? (year ++ '-' :: rest) = none := by
  have colon : DateText.expect? ':' ('-' :: rest) = none := by
    rw [DateText.expect?, if_neg (by decide)]
  have span := spanDigits_mark (by simp : '-' ∈ ['-', ':']) digits rest
  unfold duration?
  simp only [span, colon, Option.bind_eq_bind, Option.bind_none, ite_self]

/-- A typed text that starts with digits and a dash is a date if it can be read as one. -/
theorem detect_of_read? {instant : Instant} (formulas : Bool)
    (last : ∀ c ∈ (year ++ '-' :: rest).getLast?, Text.isBlank c = false)
    (read : DateText.read? (year ++ '-' :: rest) = some instant) :
    detect formulas readDate (year ++ '-' :: rest) = some (.date (some instant)) := by
  have reading : readDate (year ++ '-' :: rest) = .valid instant := by
    simp only [readDate, read]
  rw [detect_of_mark (by simp) digits formulas readDate last, duration?_of_dash digits rest, reading]

end digits

/-- Text that ends in digits does not end in white space. -/
theorem not_isBlank_of_mem_getLast? {front : List Char} {mark c : Char} {value : Nat}
    (member : c ∈ (front ++ mark :: Text.twoDigits value).getLast?) : Text.isBlank c = false := by
  have digits : Text.twoDigits value ≠ [] := by
    apply List.ne_nil_of_length_pos
    rw [Text.twoDigits, Text.length_padLeft]
    exact Nat.lt_of_lt_of_le (by decide) (Nat.le_max_left 2 _)
  rw [List.getLast?_append_cons, List.getLast?_cons_of_ne_nil digits] at member
  have digit := Text.isDigit_of_mem_padLeft (List.mem_of_getLast? member)
  exact Text.not_isBlank_of_isAlphanum (by simp [Char.isAlphanum, digit])

section written
variable {instant : Instant} (long : 100 ≤ instant.date.year) (short : instant.date.year ≤ 9999) (formulas : Bool)
include long short

/-- A day with all of its digits is the date of its start. -/
theorem detect_isoDay : detect formulas readDate instant.isoDay = some (.date (some instant.midnight)) := by
  refine detect_of_read? (Text.allDigits_padLeft 4 _) formulas ?_ (DateText.read?_isoDay long short)
  rw [← List.cons_append, ← List.append_assoc]
  exact fun c => not_isBlank_of_mem_getLast?

/-- A day and a clock with all of their digits are the date they were written for, if there is nothing below a
second. -/
theorem detect_isoDay_isoClock (whole : instant.millisecond = 0) :
    detect formulas readDate (instant.isoDay ++ ' ' :: instant.isoClock) = some (.date (some instant)) := by
  have read := DateText.read?_isoDay_isoClock long short whole
  have last : ∀ c ∈ (instant.isoDay ++ ' ' :: instant.isoClock).getLast?, Text.isBlank c = false := by
    rw [Instant.isoClock, ← List.cons_append, ← List.append_assoc, ← List.cons_append, ← List.append_assoc]
    exact fun c => not_isBlank_of_mem_getLast?
  rw [Instant.isoDay, List.append_assoc, List.cons_append] at read last ⊢
  exact detect_of_read? (Text.allDigits_padLeft 4 _) formulas last read

end written

end CellValue
end Spreadsheet
