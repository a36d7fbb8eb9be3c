import Spreadsheet.Proofs.Format.Dates
import Spreadsheet.Proofs.Format.Marks
import Spreadsheet.Proofs.Format.Units

/-! Texts without characters for private use: numbers, the text of a value without a format, and the names and signs of
a locale. Beside text that is kept they bring along nothing that stands for a literal. -/
namespace Spreadsheet

namespace Text

/-- No character becomes one for private use in lower case. -/
theorem eq_of_mem_lowerChar {c mark : Char} (reserved : Format.Reserved mark) (member : mark ∈ lowerChar c) :
    c = mark := by
  have outside : ∀ run ∈ lowerRuns, run.2.1 + run.2.2.2 < 0xE000 ∨ 0xF8FF < run.1 + run.2.2.2 := by decide +kernel
  have above := reserved.above
  have below := reserved.below
  unfold lowerChar at member
  dsimp only at member
  split at member
  · exact absurd member (reserved.not_mem_of_all (by decide))
  split at member
  · rename_i first last step shift found
    have bounds := List.find?_some found
    simp only [Bool.and_eq_true, decide_eq_true_eq] at bounds
    have apart : last + shift < 0xE000 ∨ 0xF8FF < first + shift := outside _ (List.mem_of_find?_eq_some found)
    have code := congrArg Char.toNat (List.mem_singleton.mp member)
    have shifted : (Char.ofNat (c.toNat + shift).toNat).toNat ∈ [(c.toNat + shift).toNat, 0] := by
      rw [Char.ofNat]
      by_cases valid : (c.toNat + shift).toNat.isValidChar
      · rw [dif_pos valid]
        exact List.mem_cons_self
      · rw [dif_neg valid]
        exact List.mem_cons_of_mem _ List.mem_cons_self
    rw [← code, List.mem_cons, List.mem_singleton] at shifted
    omega
  · exact (List.mem_singleton.mp member).symm

theorem mem_of_mem_lower {mark : Char} (reserved : Format.Reserved mark) {text : List Char}
    (member : mark ∈ lower text) : mark ∈ text := by
  unfold lower at member
  generalize [] = before at member
  induction text generalizing before with
  | nil => exact member
  | cons c rest ih =>
    rcases List.mem_append.mp member with here | later
    · split at here
      · exact absurd here (reserved.not_mem_of_all (by decide))
      · exact List.mem_cons.mpr (.inl (eq_of_mem_lowerChar reserved here).symm)
    · exact List.mem_cons_of_mem c (ih _ later)

end Text

namespace Locale

/-- The texts of a locale that can come up in what is printed. -/
def texts (locale : Locale) : List String :=
  [locale.decimal, locale.thousands, locale.currency, locale.am, locale.pm] ++ locale.monthsFull ++
    locale.monthsShort ++ locale.daysFull ++ locale.daysShort

/-- No text of the locale has the character. -/
def Lacks (locale : Locale) (mark : Char) : Prop := ∀ text ∈ locale.texts, mark ∉ text.toList

/-- The known locales have no characters for private use. -/
theorem lacks_ofCode {mark : Char} (reserved : Format.Reserved mark) (code : List Char) : (ofCode code).Lacks mark := by
  have plain : (table.all fun locale => locale.texts.all fun text =>
      text.toList.all fun c => (Format.placeholderIndex? c).isNone) = true := by decide +kernel
  have known : ofCode code ∈ table := by
    rw [ofCode]
    cases found : ofCode? code with
    | none => exact List.mem_cons_self
    | some locale =>
      obtain ⟨digits, -, found⟩ := Option.bind_eq_some_iff.mp found
      exact List.mem_of_find?_eq_some found
  exact fun text member =>
    reserved.not_mem_of_all (List.all_eq_true.mp (List.all_eq_true.mp plain _ known) text member)

section lacks
variable {locale : Locale} {mark : Char} (lacks : locale.Lacks mark)
include lacks

theorem Lacks.decimal : mark ∉ locale.decimal.toList := lacks _ (by simp [texts])

theorem Lacks.thousands : mark ∉ locale.thousands.toList := lacks _ (by simp [texts])

theorem Lacks.currency : mark ∉ locale.currency.toList := lacks _ (by simp [texts])

/-- A name of a month or day. -/
theorem Lacks.nameAt {names : List String} (among : ∀ name ∈ names, name ∈ locale.texts) (index : Option Nat) :
    mark ∉ Format.nameAt names index := by
  unfold Format.nameAt
  cases found : index.bind (names[·]?) with
  | none => simp
  | some name =>
    obtain ⟨place, -, at_⟩ := Option.bind_eq_some_iff.mp found
    exact lacks name (among name (List.mem_of_getElem? at_))

end lacks

end Locale

namespace Format

section reserved
variable {mark : Char} (reserved : Reserved mark)
include reserved

namespace Reserved

theorem not_mem_text (x : Number) : mark ∉ x.text := reserved.not_mem (plain_text x)

theorem not_mem_numeral (value : Nat) : mark ∉ Text.numeral value := reserved.not_mem (plain_numeral value)

theorem not_mem_signedNumeral (value : Int) : mark ∉ Text.signedNumeral value := by
  have numeral := reserved.not_mem_numeral value.natAbs
  have dash := reserved.ne (c := '-') rfl
  unfold Text.signedNumeral
  split <;> simp [numeral, dash]

theorem not_mem_padLeft {text : List Char} (lacks : mark ∉ text) (width : Nat) :
    mark ∉ Text.padLeft width '0' text := by
  intro member
  rcases List.mem_append.mp member with zero | inside
  · exact reserved.ne (c := '0') rfl (List.eq_of_mem_replicate zero)
  · exact lacks inside

theorem not_mem_clock (ms : Number) : mark ∉ CellValue.clock ms := by
  have colon := reserved.ne (c := ':') rfl
  have sign : mark ∉ if ms < 0 then ['-'] else [] := by
    split <;> exact reserved.not_mem_of_all rfl
  have places (x : Number) : mark ∉ CellValue.twoPlaces x := reserved.not_mem_padLeft (reserved.not_mem_text x) 2
  simp only [CellValue.clock, List.cons_append, List.append_assoc, List.mem_append, List.mem_cons, not_or]
  exact ⟨sign, reserved.not_mem_text _, colon, places _, colon, places _⟩

theorem not_mem_dateText (instant : Option Instant) : mark ∉ CellValue.dateText instant := by
  have dash := reserved.ne (c := '-') rfl
  have two (value : Nat) : mark ∉ Text.twoDigits value := reserved.not_mem_padLeft (reserved.not_mem_numeral value) 2
  cases instant with
  | none => exact reserved.not_mem_of_all (by decide)
  | some instant =>
    unfold CellValue.dateText
    generalize instant.date = date
    simp [dash, two, reserved.not_mem_signedNumeral]

/-- The text of a value that counts days. -/
theorem not_mem_display {value : CellValue} {days : Number} (counted : days? value = some days) :
    mark ∉ value.display.toList := by
  cases value with
  | number x => simpa only [CellValue.display, toString, String.toList_ofList] using reserved.not_mem_text x
  | date instant => simpa only [CellValue.display, String.toList_ofList] using reserved.not_mem_dateText instant
  | duration ms => simpa only [CellValue.display, String.toList_ofList] using reserved.not_mem_clock ms
  | _ => cases counted

end Reserved

end reserved

theorem mem_expandMark {before after text : List Char} {c : Char} (member : c ∈ expandMark before after text) :
    c = '.' ∨ c ∈ before ∨ c ∈ after ∨ c ∈ text := by
  fun_induction expandMark before after text <;> grind

/-- A number without a pattern. -/
theorem Reserved.not_mem_generalText {mark : Char} (reserved : Reserved mark) {locale : Locale}
    (lacks : locale.Lacks mark) (x : Number) : mark ∉ generalText x locale := by
  have text := reserved.not_mem_text (x.significant 15)
  have before : mark ∉ (x.significant 15).text.takeWhile (· != '.') := fun member =>
    text ((List.takeWhile_sublist _).subset member)
  unfold generalText
  dsimp only
  split
  · exact text
  · rename_i after split
    have rest : mark ∉ after := fun member =>
      text ((List.dropWhile_sublist _).subset (split ▸ List.mem_cons_of_mem _ member))
    simp only [List.mem_append, not_or]
    refine ⟨⟨before, fun member => ?_⟩, rest⟩
    rcases mem_expandMark member with point | here | later | written
    · exact reserved.ne rfl point
    · exact before here
    · exact rest later
    · exact lacks.decimal written

theorem Reserved.not_mem_of_startsIgnoringCase {mark : Char} (reserved : Reserved mark) {word text : List Char}
    (absent : mark ∉ word.map Char.toLower) (starts : Text.startsIgnoringCase word text = true) :
    mark ∉ text.take word.length := by
  rw [Text.startsIgnoringCase, beq_iff_eq] at starts
  intro member
  have lowered := List.mem_map_of_mem (f := Char.toLower) member
  rw [starts, reserved.toLower] at lowered
  exact absent lowered

/-- Nothing but a word is cut out. -/
theorem Reserved.count_splitAtIgnoringCase {mark : Char} (reserved : Reserved mark) {word text before after : List Char}
    (absent : mark ∉ word.map Char.toLower) (cut : Text.splitAtIgnoringCase word text = some (before, after)) :
    (before ++ after).count mark = text.count mark := by
  induction text generalizing before with
  | nil =>
    simp only [Text.splitAtIgnoringCase] at cut
    split at cut <;> cases cut
    rfl
  | cons c rest ih =>
    rw [Text.splitAtIgnoringCase] at cut
    split at cut
    · rename_i starts
      cases cut
      have whole := congrArg (List.count mark) (List.take_append_drop word.length (c :: rest))
      rwa [List.count_append, List.count_eq_zero.mpr (reserved.not_mem_of_startsIgnoringCase absent starts),
        Nat.zero_add] at whole
    · obtain ⟨⟨front, back⟩, found, same⟩ := Option.map_eq_some_iff.mp cut
      cases same
      rw [List.cons_append, List.count_cons, List.count_cons, ih found]

theorem count_replaceTextSigns {mark : Char} (other : mark ≠ '@') {replacement : List Char}
    (lacks : mark ∉ replacement) (body : List Char) :
    (replaceTextSigns body replacement).count mark = body.count mark := by
  unfold replaceTextSigns
  induction body with
  | nil => rfl
  | cons c rest ih =>
    rw [List.flatMap_cons, List.count_append, ih]
    by_cases sign : c = '@'
    · rw [if_pos sign, List.count_eq_zero.mpr lacks, List.count_cons_of_ne (sign ▸ other.symm), Nat.zero_add]
    · rw [if_neg sign, ← List.count_append, List.singleton_append]

end Format
end Spreadsheet
