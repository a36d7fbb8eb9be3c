import Mathlib.Data.List.Basic
import Spreadsheet.Calendar.DateText
import Spreadsheet.Proofs.Calendar.Months
import Spreadsheet.Proofs.Number.Numerals

/-! What reads as a date. The shape of a typed date is told apart from what its fields count: a text of that shape is
read if and only if it is of a day that the calendar has and of a time that a clock shows, and then as that very day and
time. A day or a time that overflows never comes back to the fields that were written. -/
namespace Spreadsheet.DateText

/-- Years, months and days as they are written, and a time of day to the second. -/
structure Fields where
  year : Nat
  month : Nat
  day : Nat
  hour : Nat
  minute : Nat
  second : Nat

namespace Fields

def date (fields : Fields) : Calendar.Date := ⟨fields.year, fields.month, fields.day⟩

/-- A day that the calendar has, of a year that is not taken for a short one, and a time that a clock shows. -/
structure IsReal (fields : Fields) : Prop where
  long : 100 ≤ fields.year
  date : fields.date.IsReal
  hour : fields.hour < 24
  minute : fields.minute < 60
  second : fields.second < 60

/-- A point in time that has these fields, and nothing below a second. -/
structure Shown (fields : Fields) (instant : Instant) : Prop where
  date : instant.date = fields.date
  hour : instant.hour = fields.hour
  minute : instant.minute = fields.minute
  second : instant.second = fields.second
  millisecond : instant.millisecond = 0

end Fields

section fields
variable {fields : Fields} {instant : Instant}

/-- The instant of these fields, if there is one. -/
def atFields? (fields : Fields) : Option Instant :=
  instant? fields.year fields.month fields.day fields.hour fields.minute fields.second

/-- The fields of a point in time are those of a day in the calendar. -/
theorem instant?_fields (long : 100 ≤ instant.date.year) (whole : instant.millisecond = 0) :
    instant? instant.date.year instant.date.month instant.date.day instant.hour instant.minute instant.second =
      some instant := by
  have fields := Instant.ofFields?_fields long
  have hour := instant.hour_lt
  have minute := instant.minute_lt
  have second := instant.second_lt
  rw [whole] at fields
  unfold instant?
  simp only [Int.natCast_zero] at fields
  simp only [fields, Option.bind_eq_bind, Option.bind_some]
  rw [if_neg (by simp), if_neg (by omega)]

/-- A time that a clock shows does not count on into the next day. -/
private theorem fields_of_ofFields? {year month day : Int} {hour minute second : Nat}
    (found : Instant.ofFields? year month day hour minute second 0 = some instant) (hours : hour < 24)
    (minutes : minute < 60) (seconds : second < 60) :
    instant.dayNumber = Calendar.dayNumber (Instant.fullYear year) month day ∧ instant.hour = hour ∧
      instant.minute = minute ∧ instant.second = second ∧ instant.millisecond = 0 := by
  unfold Instant.ofFields? Instant.ofMs? at found
  split at found
  · cases found
    simp only [Instant.dayNumber, Instant.hour, Instant.minute, Instant.second, Instant.millisecond, Instant.timeOfDay,
      msPerDay, msPerHour, msPerMinute, msPerSecond]
    generalize Calendar.dayNumber _ _ _ = number
    omega
  · cases found

/-- A century on, a day has another number. -/
private theorem dayNumber_fullYear {year month : Nat} {day : Int} (first : 1 ≤ month) (last : month ≤ 12)
    (same : Calendar.dayNumber (Instant.fullYear year) month day = Calendar.dayNumber year month day) : 100 ≤ year := by
  by_contra short
  have later : Instant.fullYear year = 1900 + year := if_pos (by omega)
  have starts : ∀ leap, ∀ month < 12, (Calendar.monthStarts leap).getD month 0 ≤ 335 := by decide
  have sameYear : ((month : Int) - 1) / 12 = 0 := by omega
  have place : (((month : Int) - 1) % 12).toNat = month - 1 := by omega
  have before := starts (Calendar.isLeap year) (month - 1) (by omega)
  have after := starts (Calendar.isLeap (1900 + year)) (month - 1) (by omega)
  rw [later] at same
  simp only [Calendar.dayNumber, sameYear, place, Int.add_zero] at same
  generalize (Calendar.monthStarts _).getD (month - 1) 0 = a at before same
  generalize (Calendar.monthStarts _).getD (month - 1) 0 = b at after same
  simp only [Calendar.yearStart] at same
  omega

/-- There is a point in time with given fields if and only if they are real, and it has these fields: no field that
overflows is made up for by another one. -/
theorem atFields?_eq_some_iff : atFields? fields = some instant ↔ fields.IsReal ∧ fields.Shown instant := by
  constructor
  · intro found
    simp only [atFields?, instant?, Option.bind_eq_bind, Option.bind_eq_some_iff] at found
    obtain ⟨_, made, found⟩ := found
    split at found
    · cases found
    split at found
    · cases found
    rename_i kept clock
    cases found
    obtain ⟨number, hour, minute, second, millisecond⟩ :=
      fields_of_ofFields? made (by omega) (by omega) (by omega)
    have date : instant.date = fields.date := by
      cases shown : instant.date
      simp only [shown] at kept
      simp only [Fields.date, Calendar.Date.mk.injEq]
      omega
    have real := Calendar.isReal_ofDayNumber instant.dayNumber
    have again := Calendar.dayNumber_ofDayNumber instant.dayNumber
    rw [← Instant.date, date] at real again
    exact ⟨⟨dayNumber_fullYear real.month.1 real.month.2 (number.symm.trans again.symm), real, by omega, by omega,
      by omega⟩, ⟨date, hour, minute, second, millisecond⟩⟩
  · rintro ⟨real, shown⟩
    have long : 100 ≤ instant.date.year := by
      rw [shown.date]
      exact Int.ofNat_le.mpr real.long
    have found := instant?_fields long shown.millisecond
    rw [shown.date, shown.hour, shown.minute, shown.second] at found
    exact found

/-- The days of four-digit years are few. -/
private theorem natAbs_dayNumber_le (real : fields.date.IsReal) (short : fields.year ≤ 9999) :
    (Calendar.dayNumber fields.year fields.month fields.day).natAbs ≤ 4000000 := by
  obtain ⟨first, last⟩ := real.month
  have same := Calendar.ofDayNumber_dayNumber real
  have most := Calendar.day_le (Calendar.dayNumber fields.date.year fields.date.month fields.date.day)
  rw [same] at most
  simp only [Fields.date] at first last most
  have starts : ∀ leap, ∀ month < 12, (Calendar.monthStarts leap).getD month 0 ≤ 335 := by decide
  have sameYear : ((fields.month : Int) - 1) / 12 = 0 := by omega
  have place : (((fields.month : Int) - 1) % 12).toNat = fields.month - 1 := by omega
  have inYear := starts (Calendar.isLeap fields.year) (fields.month - 1) (by omega)
  simp only [Calendar.dayNumber, sameYear, place, Int.add_zero]
  generalize (Calendar.monthStarts _).getD (fields.month - 1) 0 = before at inYear
  simp only [Calendar.yearStart, Calendar.yearZero]
  omega

/-- Real fields of a four-digit year are those of a point in time. -/
theorem exists_shown (real : fields.IsReal) (short : fields.year ≤ 9999) : ∃ instant, fields.Shown instant := by
  have few := natAbs_dayNumber_le real.date short
  have same := Calendar.ofDayNumber_dayNumber real.date
  obtain ⟨_, _, hour, minute, second⟩ := real
  simp only [Fields.date] at same
  generalize Calendar.dayNumber fields.year fields.month fields.day = number at few same
  refine ⟨⟨number * msPerDay + fields.hour * msPerHour + fields.minute * msPerMinute + fields.second * msPerSecond,
    ?bounded⟩, ?date, ?hour, ?minute, ?second, ?millisecond⟩
  case date =>
    rw [Fields.date, ← same, Instant.date]
    congr 1
    simp only [Instant.dayNumber, msPerDay, msPerHour, msPerMinute, msPerSecond]
    omega
  all_goals
    simp only [Instant.hour, Instant.minute, Instant.second, Instant.millisecond, Instant.timeOfDay, msPerDay, msPerHour,
      msPerMinute, msPerSecond]
    omega

end fields

/-- A run of digits of some length, and the number that they are. -/
structure IsField (least most value : Nat) (digits : List Char) : Prop where
  decimal : ∀ c ∈ digits, c.isDigit = true
  least : least ≤ digits.length
  most : digits.length ≤ most
  value : Text.digitsValue digits = value

/-- Hours and minutes, with seconds or without. -/
inductive SpellsClock : List Char → Nat → Nat → Nat → Prop where
  | minutes {hours minutes : List Char} {hour minute : Nat} (first : IsField 1 2 hour hours)
      (last : IsField 2 2 minute minutes) : SpellsClock (hours ++ ':' :: minutes) hour minute 0
  | seconds {hours minutes seconds : List Char} {hour minute second : Nat} (first : IsField 1 2 hour hours)
      (next : IsField 2 2 minute minutes) (last : IsField 2 2 second seconds) :
      SpellsClock (hours ++ ':' :: (minutes ++ ':' :: seconds)) hour minute second

/-- A date with the year first, alone or with a time after a `T` or a space, or a date with the month first. -/
inductive Spells : List Char → Fields → Prop where
  | day {years months days : List Char} {year month day : Nat} (first : IsField 4 4 year years)
      (next : IsField 1 2 month months) (last : IsField 1 2 day days) :
      Spells (years ++ '-' :: (months ++ '-' :: days)) ⟨year, month, day, 0, 0, 0⟩
  | moment {years months days clock : List Char} {mark : Char} {year month day hour minute second : Nat}
      (first : IsField 4 4 year years) (next : IsField 1 2 month months) (last : IsField 1 2 day days)
      (marked : mark = 'T' ∨ mark = ' ') (time : SpellsClock clock hour minute second) :
      Spells (years ++ '-' :: (months ++ '-' :: (days ++ mark :: clock))) ⟨year, month, day, hour, minute, second⟩
  | monthFirst {years months days : List Char} {year month day : Nat} (first : IsField 1 2 month months)
      (next : IsField 1 2 day days) (last : IsField 4 4 year years) :
      Spells (months ++ '/' :: (days ++ '/' :: years)) ⟨year, month, day, 0, 0, 0⟩

section reading
variable {least most value : Nat} {run rest text : List Char} {fields : Fields} {instant : Instant}

/-- A field is found as a whole, unless it could go on. -/
private theorem takeWhile_take (decimal : ∀ c ∈ run, c.isDigit = true) (short : run.length ≤ most)
    (ends : run.length < most → ∀ c ∈ rest.head?, c.isDigit = false) :
    ((run ++ rest).take most).takeWhile Char.isDigit = run := by
  have nothing : (rest.take (most - run.length)).takeWhile Char.isDigit = [] := by
    cases rest with
    | nil => simp
    | cons c rest =>
      rcases Nat.lt_or_ge run.length most with more | full
      · obtain ⟨count, left⟩ := Nat.exists_eq_succ_of_ne_zero (Nat.sub_ne_zero_of_lt more)
        rw [left, List.take_succ_cons, List.takeWhile_cons_of_neg (by simp [ends more c rfl])]
      · rw [Nat.sub_eq_zero_of_le full, List.take_zero, List.takeWhile_nil]
  rw [List.take_append, List.take_of_length_le short, List.takeWhile_append_of_pos decimal, nothing, List.append_nil]

private theorem digits?_append (field : IsField least most value run)
    (ends : run.length < most → ∀ c ∈ rest.head?, c.isDigit = false) :
    digits? least most (run ++ rest) = some ((value : Int), rest) := by
  obtain ⟨decimal, enough, short, rfl⟩ := field
  unfold digits?
  simp only [takeWhile_take decimal short ends]
  rw [if_neg (by omega), List.drop_left]

/-- What is read as a field is one. -/
private theorem exists_field {number : Int} (read : digits? least most text = some (number, rest)) :
    ∃ run value, IsField least most value run ∧ number = (value : Int) ∧ text = run ++ rest := by
  simp only [digits?, Option.ite_none_left_eq_some, Nat.not_lt, Option.some.injEq, Prod.mk.injEq] at read
  obtain ⟨enough, rfl, rfl⟩ := read
  have front : (text.take most).takeWhile Char.isDigit <+: text :=
    (List.takeWhile_prefix _).trans (List.take_prefix _ _)
  exact ⟨_, _, ⟨fun c member => List.mem_takeWhile_imp member, enough,
    (List.takeWhile_prefix _).length_le.trans (List.length_take_le _ _), rfl⟩, rfl,
    (List.prefix_iff_eq_append.mp front).symm⟩

/-- A mark is read only where it stands. -/
theorem expect?_eq_some_iff {c : Char} : expect? c text = some rest ↔ text = c :: rest := by
  cases text with
  | nil => simp [expect?]
  | cons first others => simp [expect?]

theorem expect?_mark (mark : Char) (rest : List Char) : expect? mark (mark :: rest) = some rest :=
  expect?_eq_some_iff.mpr rfl

/-- A field up to a mark. -/
private theorem digits?_mark {mark : Char} (field : IsField least most value run) (other : mark.isDigit = false) :
    digits? least most (run ++ mark :: rest) = some ((value : Int), mark :: rest) :=
  digits?_append field fun _ c member => by
    cases member
    exact other

/-- A field at the end. -/
private theorem digits?_last (field : IsField least most value run) :
    digits? least most run = some ((value : Int), []) := by
  have read : digits? least most (run ++ []) = some ((value : Int), []) := digits?_append field (by simp)
  rwa [List.append_nil] at read

private theorem clock?_of_spells {hour minute second : Nat} (spelled : SpellsClock text hour minute second) :
    clock? text = some ((hour : Int), (minute : Int), (second : Int)) := by
  cases spelled with
  | minutes first last =>
    simp only [clock?, digits?_mark first (show ':'.isDigit = false by decide), digits?_last last, expect?_mark,
      Option.bind_eq_bind, Option.bind_some, Int.natCast_zero]
  | seconds first next last =>
    simp only [clock?, digits?_mark first (show ':'.isDigit = false by decide),
      digits?_mark next (show ':'.isDigit = false by decide), digits?_last last, expect?_mark, Option.bind_eq_bind,
      Option.bind_some, List.isEmpty_nil, ↓reduceIte]

private theorem exists_spellsClock {hour minute second : Int} (found : clock? text = some (hour, minute, second)) :
    ∃ h m s, SpellsClock text h m s := by
  simp only [clock?, Option.bind_eq_bind, Option.bind_eq_some_iff, Prod.exists, expect?_eq_some_iff] at found
  obtain ⟨_, _, readHour, _, rfl, _, rest, readMinute, found⟩ := found
  obtain ⟨hours, h, first, _, rfl⟩ := exists_field readHour
  obtain ⟨minutes, m, next, _, rfl⟩ := exists_field readMinute
  split at found
  · rw [List.append_nil]
    exact ⟨h, m, 0, .minutes first next⟩
  · simp only [Option.bind_eq_some_iff, Prod.exists, expect?_eq_some_iff, Option.ite_none_right_eq_some,
      List.isEmpty_iff] at found
    obtain ⟨_, rfl, _, _, readSecond, rfl, _⟩ := found
    obtain ⟨seconds, s, last, _, rfl⟩ := exists_field readSecond
    rw [List.append_nil]
    exact ⟨h, m, s, .seconds first next last⟩

/-- A month or a day in front is too short for a year. -/
private theorem iso?_eq_none {mark : Char} (field : IsField 1 2 value run) (other : mark.isDigit = false) :
    iso? (run ++ mark :: rest) = none := by
  have short := field.most
  have found : ((run ++ mark :: rest).take 4).takeWhile Char.isDigit = run :=
    takeWhile_take field.decimal (by omega) fun _ c member => by
      cases member
      exact other
  have read : digits? 4 4 (run ++ mark :: rest) = none := by
    unfold digits?
    simp only [found]
    rw [if_pos (by omega)]
  simp only [iso?, read, Option.bind_eq_bind, Option.bind_none]

/-- A year in front is too long for a month. -/
private theorem monthFirst?_eq_none {mark : Char} (field : IsField 4 4 value run) :
    monthFirst? (run ++ mark :: rest) = none := by
  obtain ⟨a, b, c, d, rfl⟩ := List.length_eq_four.mp (Nat.le_antisymm field.most field.least)
  have decimal := field.decimal
  simp only [List.forall_mem_cons] at decimal
  obtain ⟨first, second, third, _⟩ := decimal
  have slash : c ≠ '/' := by
    rintro rfl
    exact absurd third (by decide)
  have read : digits? 1 2 ([a, b, c, d] ++ mark :: rest) =
      some ((Text.digitsValue [a, b] : Int), c :: d :: mark :: rest) := by
    simp [digits?, first, second]
  simp only [monthFirst?, read, expect?, if_neg slash, Option.bind_eq_bind, Option.bind_some, Option.bind_none]

/-- The fields that are spelled are the ones that are looked up. -/
theorem read?_of_spells (spelled : Spells text fields) : read? text = atFields? fields := by
  have dash : '-'.isDigit = false := by decide
  have slash : '/'.isDigit = false := by decide
  cases spelled with
  | day first next last =>
    rw [read?, monthFirst?_eq_none first, Option.or_none]
    simp only [iso?, digits?_mark first dash, digits?_mark next dash, digits?_last last, expect?_mark,
      Option.bind_eq_bind, Option.bind_some]
    rfl
  | @moment _ _ _ _ mark _ _ _ _ _ _ first next last marked time =>
    have other : mark.isDigit = false := by
      rcases marked with rfl | rfl <;> decide
    rw [read?, monthFirst?_eq_none first, Option.or_none]
    simp only [iso?, digits?_mark first dash, digits?_mark next dash, digits?_mark last other, expect?_mark,
      clock?_of_spells time, Option.bind_eq_bind, Option.bind_some]
    rw [if_neg]
    · rfl
    · rintro ⟨noT, noSpace⟩
      exact marked.elim noT noSpace
  | monthFirst first next last =>
    rw [read?, iso?_eq_none first slash, Option.none_or]
    simp only [monthFirst?, digits?_mark first slash, digits?_mark next slash, digits?_last last, expect?_mark,
      Option.bind_eq_bind, Option.bind_some]
    rfl

/-- What is read as a date has the shape of one. -/
theorem exists_spells (found : read? text = some instant) : ∃ fields, Spells text fields := by
  rw [read?, Option.or_eq_some_iff] at found
  rcases found with found | ⟨_, found⟩
  · simp only [iso?, Option.bind_eq_bind, Option.bind_eq_some_iff, Prod.exists, expect?_eq_some_iff] at found
    obtain ⟨_, _, readYear, _, rfl, _, _, readMonth, _, rfl, _, rest, readDay, found⟩ := found
    obtain ⟨years, year, first, _, rfl⟩ := exists_field readYear
    obtain ⟨months, month, next, _, rfl⟩ := exists_field readMonth
    obtain ⟨days, day, last, _, rfl⟩ := exists_field readDay
    split at found
    · rw [List.append_nil]
      exact ⟨_, .day first next last⟩
    · split at found
      · cases found
      · rename_i marked
        simp only [Option.bind_eq_some_iff, Prod.exists] at found
        obtain ⟨_, _, _, time, _⟩ := found
        obtain ⟨h, m, s, clock⟩ := exists_spellsClock time
        exact ⟨_, .moment first next last (by tauto) clock⟩
  · simp only [monthFirst?, Option.bind_eq_bind, Option.bind_eq_some_iff, Prod.exists, expect?_eq_some_iff,
      Option.ite_none_right_eq_some, List.isEmpty_iff] at found
    obtain ⟨_, _, readMonth, _, rfl, _, _, readDay, _, rfl, _, _, readYear, rfl, _⟩ := found
    obtain ⟨months, month, first, _, rfl⟩ := exists_field readMonth
    obtain ⟨days, day, next, _, rfl⟩ := exists_field readDay
    obtain ⟨years, year, last, _, rfl⟩ := exists_field readYear
    rw [List.append_nil]
    exact ⟨_, .monthFirst first next last⟩

/-- Four digits are less than ten thousand. -/
private theorem year_le (spelled : Spells text fields) : fields.year ≤ 9999 := by
  have short {years : List Char} {year : Nat} (field : IsField 4 4 year years) : year ≤ 9999 := by
    have less := Text.digitsValue_lt field.decimal
    rw [field.value, Nat.le_antisymm field.most field.least] at less
    omega
  cases spelled with
  | day first => exact short first
  | moment first => exact short first
  | monthFirst _ _ last => exact short last

/-- A text is read as a date if and only if it has the shape of one and its fields are real; what is read has exactly
these fields. -/
theorem reads_real (text : List Char) :
    ((∃ instant, read? text = some instant) ↔ ∃ fields, Spells text fields ∧ fields.IsReal) ∧
      ∀ fields instant, Spells text fields →
        (read? text = some instant ↔ fields.IsReal ∧ fields.Shown instant) := by
  have reads {fields : Fields} {instant : Instant} (spelled : Spells text fields) :
      read? text = some instant ↔ fields.IsReal ∧ fields.Shown instant := by
    rw [read?_of_spells spelled, atFields?_eq_some_iff]
  refine ⟨⟨?_, ?_⟩, fun fields instant spelled => reads spelled⟩
  · rintro ⟨instant, found⟩
    obtain ⟨fields, spelled⟩ := exists_spells found
    exact ⟨fields, spelled, ((reads spelled).mp found).1⟩
  · rintro ⟨fields, spelled, real⟩
    obtain ⟨instant, shown⟩ := exists_shown real (year_le spelled)
    exact ⟨instant, (reads spelled).mpr ⟨real, shown⟩⟩

/-- The last second of a leap day; and the same day of a year that is none, although its number is a multiple of four. -/
theorem reads_real_leap_day :
    (∃ instant, read? "2000-2-29 23:59:59".toList = some instant ∧
      (⟨2000, 2, 29, 23, 59, 59⟩ : Fields).Shown instant) ∧
    read? "1900-02-29T23:59:59".toList = none := by
  have field {least most value : Nat} {digits : List Char} (decimal : digits.all Char.isDigit = true)
      (enough : least ≤ digits.length ∧ digits.length ≤ most) (number : Text.digitsValue digits = value) :
      IsField least most value digits := ⟨List.all_eq_true.mp decimal, enough.1, enough.2, number⟩
  have clock : SpellsClock "23:59:59".toList 23 59 59 :=
    @SpellsClock.seconds "23".toList "59".toList "59".toList 23 59 59 (field rfl (by decide) rfl)
      (field rfl (by decide) rfl) (field rfl (by decide) rfl)
  have leap : Spells "2000-2-29 23:59:59".toList ⟨2000, 2, 29, 23, 59, 59⟩ :=
    @Spells.moment "2000".toList "2".toList "29".toList "23:59:59".toList ' ' 2000 2 29 23 59 59
      (field rfl (by decide) rfl) (field rfl (by decide) rfl) (field rfl (by decide) rfl) (.inr rfl) clock
  have common : Spells "1900-02-29T23:59:59".toList ⟨1900, 2, 29, 23, 59, 59⟩ :=
    @Spells.moment "1900".toList "02".toList "29".toList "23:59:59".toList 'T' 1900 2 29 23 59 59
      (field rfl (by decide) rfl) (field rfl (by decide) rfl) (field rfl (by decide) rfl) (.inl rfl) clock
  constructor
  · obtain ⟨instant, found⟩ := (reads_real "2000-2-29 23:59:59".toList).1.mpr
      ⟨_, leap, ⟨by decide, ⟨by decide, by decide⟩, by decide, by decide, by decide⟩⟩
    exact ⟨instant, found, (((reads_real _).2 _ instant leap).mp found).2⟩
  · rw [Option.eq_none_iff_forall_ne_some]
    intro instant found
    have real := (((reads_real _).2 _ instant common).mp found).1
    exact absurd real.date.day (by decide)

end reading
end Spreadsheet.DateText
