import Spreadsheet.Cell.Detection
import Spreadsheet.Proofs.Calendar.Spelled
import Spreadsheet.Proofs.Number.Spelling

/-! What typed text stands for. Each kind of value has its own spelling, and a text is of the first kind that it fits:
formula, truth value, number, duration, date, and plain text at last. A reader of dates is asked last and may answer
whatever it likes. -/
namespace Spreadsheet

namespace Text

/-- White space around a text is left out once. -/
theorem trim_trim (text : List Char) : trim (trim text) = trim text := by
  have ends (text : List Char) : ∀ c ∈ (trimLeft text).head?, isBlank c = false := by
    intro c member
    have blank := List.head?_dropWhile_not isBlank text
    rw [trimLeft] at member
    rw [Option.mem_def.mp member] at blank
    simpa using blank
  refine trim_eq_self ?_ ?_
  · intro c member
    have front : trim text <+: (trimLeft text).reverse.reverse :=
      List.reverse_prefix.mpr (List.dropWhile_suffix isBlank)
    rw [List.reverse_reverse] at front
    obtain ⟨back, same⟩ := front
    apply ends text
    rw [← same, List.head?_append, Option.mem_def.mp member]
    rfl
  · intro c member
    rw [trim, List.getLast?_reverse] at member
    exact ends _ c member

end Text

namespace CellValue
open DateText (expect?_eq_some_iff expect?_mark)
variable {text rest : List Char}

/-- A word in letters of either case. The long s is a small s as well. -/
def Names (word text : List Char) : Prop :=
  List.Forall₂ (fun letter c => c = letter ∨ c = letter.toLower ∨ letter = 'S' ∧ c = 'ſ') word text

/-- The word for a truth value. -/
def word (value : Bool) : List Char := if value then "TRUE".toList else "FALSE".toList

private theorem upperLetter_eq_iff {letter c : Char} (among : letter ∈ "TRUEFALSE".toList) :
    upperLetter c = letter ↔ c = letter ∨ c = letter.toLower ∨ letter = 'S' ∧ c = 'ſ' := by
  have codes : ("TRUEFALSE".toList.all fun letter => letter.toNat < 128 && letter.toLower.toNat < 128) = true := by decide
  have table : ∀ n < 128, ("TRUEFALSE".toList.all fun letter => decide ((Char.ofNat n).toUpper = letter ↔
      Char.ofNat n = letter ∨ Char.ofNat n = letter.toLower)) = true := by decide +kernel
  obtain ⟨capital, small⟩ : letter.toNat < 128 ∧ letter.toLower.toNat < 128 := by
    simpa using List.all_eq_true.mp codes letter among
  have long : 128 ≤ 'ſ'.toNat := by decide
  unfold upperLetter
  split
  · rename_i same
    subst same
    constructor
    · exact fun same => .inr (.inr ⟨same.symm, rfl⟩)
    · rintro (same | same | ⟨rfl, -⟩)
      · rw [← same] at capital
        omega
      · rw [← same] at small
        omega
      · rfl
  · rename_i other
    have here : c.toUpper = letter ↔ c = letter ∨ c = letter.toLower := by
      rcases Nat.lt_or_ge c.toNat 128 with low | high
      · have same := of_decide_eq_true (List.all_eq_true.mp (table c.toNat low) letter among)
        rwa [Char.ofNat_toNat] at same
      · have kept : c.toUpper = c := by
          refine dif_neg fun ⟨_, last⟩ => ?_
          have code : c.toNat ≤ 'z'.toNat := last
          exact absurd (Nat.le_trans high code) (by decide)
        rw [kept]
        refine ⟨.inl, ?_⟩
        rintro (same | same)
        · exact same
        · rw [← same] at small
          omega
    rw [here, ← or_assoc, iff_self_or]
    exact fun long => absurd long.2 other

/-- A word that comes of a text letter by letter. -/
private theorem map_eq_iff_forall₂ {f : Char → Char} {fits : Char → Char → Prop} {word : List Char}
    (letters : ∀ letter ∈ word, ∀ c, f c = letter ↔ fits letter c) : text.map f = word ↔ List.Forall₂ fits word text := by
  induction word generalizing text with
  | nil =>
    cases text with
    | nil => exact ⟨fun _ => .nil, fun _ => rfl⟩
    | cons c text => exact ⟨nofun, nofun⟩
  | cons letter word ih =>
    obtain ⟨first, others⟩ := List.forall_mem_cons.mp letters
    cases text with
    | nil => exact ⟨nofun, nofun⟩
    | cons c text => rw [List.map_cons, List.cons.injEq, first, ih others, List.forall₂_cons]

theorem boolean?_eq_some_iff {value : Bool} : boolean? text = some value ↔ Names (word value) text := by
  have among (value : Bool) : ∀ letter ∈ word value, letter ∈ "TRUEFALSE".toList := by
    cases value
    · exact fun letter member => (List.drop_subset 4 _) member
    · exact fun letter member => (List.take_subset 4 _) member
  have named : text.map upperLetter = word value ↔ Names (word value) text :=
    map_eq_iff_forall₂ fun letter member c => upperLetter_eq_iff (among value letter member)
  rw [← named]
  change (if text.map upperLetter = word true then some true
    else if text.map upperLetter = word false then some false else none) = some value ↔ _
  cases value with
  | true => simp
  | false =>
    have different : word false ≠ word true := by decide
    constructor
    · intro read
      split at read
      · cases read
      · exact (Option.ite_none_right_eq_some.mp read).1
    · intro same
      rw [if_neg (by rwa [same]), if_pos same]

/-- Two digits that count less than sixty. -/
structure IsSixtieth (count : Nat) (digits : List Char) : Prop extends DateText.IsField 2 2 count digits where
  less : count < 60

/-- The tens tell whether two digits count less than sixty. -/
private theorem digitsValue_lt_sixty_iff {tens ones : Char} (ten : tens.isDigit = true) (one : ones.isDigit = true) :
    Text.digitsValue [tens, ones] < 60 ↔ tens.toNat ≤ '5'.toNat := by
  have high := Text.toNat_of_isDigit ten
  have low := Text.toNat_of_isDigit one
  change 10 * (10 * 0 + (tens.toNat - 48)) + (ones.toNat - 48) < 60 ↔ tens.toNat ≤ 53
  omega

theorem sixtieths?_append {count : Nat} {digits : List Char} (sixtieth : IsSixtieth count digits) (rest : List Char) :
    sixtieths? (digits ++ rest) = some (.ofNat count, rest) := by
  obtain ⟨tens, ones, rfl⟩ := List.length_eq_two.mp (Nat.le_antisymm sixtieth.most sixtieth.least)
  obtain ⟨ten, others⟩ := List.forall_mem_cons.mp sixtieth.decimal
  obtain ⟨one, -⟩ := List.forall_mem_cons.mp others
  have low := (digitsValue_lt_sixty_iff ten one).mp (sixtieth.value ▸ sixtieth.less)
  rw [List.cons_append, List.cons_append, List.nil_append, sixtieths?, ten, one, decide_eq_true low, sixtieth.value]
  rfl

theorem exists_sixtieth {x : Number} (read : sixtieths? text = some (x, rest)) :
    ∃ count digits, IsSixtieth count digits ∧ x = .ofNat count ∧ text = digits ++ rest := by
  unfold sixtieths? at read
  split at read
  · rename_i tens ones after
    simp only [Option.ite_none_right_eq_some, Bool.and_eq_true, decide_eq_true_eq, Option.some.injEq, Prod.mk.injEq]
      at read
    obtain ⟨⟨⟨ten, low⟩, one⟩, rfl, rfl⟩ := read
    exact ⟨_, [tens, ones], ⟨⟨by simp [ten, one], Nat.le_refl 2, Nat.le_refl 2, rfl⟩,
      (digitsValue_lt_sixty_iff ten one).mpr low⟩, rfl, rfl⟩
  · cases read

/-- Hours of any number of digits and minutes, with seconds or without, and the milliseconds that they are. -/
inductive SpellsDuration : List Char → Number → Prop where
  | minutes {hours minutes : List Char} {minute : Nat} (decimal : Text.allDigits hours = true)
      (last : IsSixtieth minute minutes) : SpellsDuration (hours ++ ':' :: minutes)
        (.ofNat (Text.digitsValue hours) * .ofNat msPerHour + .ofNat minute * .ofNat msPerMinute)
  | seconds {hours minutes seconds : List Char} {minute second : Nat} (decimal : Text.allDigits hours = true)
      (next : IsSixtieth minute minutes) (last : IsSixtieth second seconds) :
      SpellsDuration (hours ++ ':' :: (minutes ++ ':' :: seconds))
        (.ofNat (Text.digitsValue hours) * .ofNat msPerHour + .ofNat minute * .ofNat msPerMinute +
          .ofNat second * .ofNat msPerSecond)

/-- Exactly what spells a duration is read as one. -/
theorem duration?_eq_some_iff {ms : Number} : duration? text = some ms ↔ SpellsDuration text ms := by
  constructor
  · intro read
    unfold duration? at read
    cases divided : Text.spanDigits text with
    | mk hours rest =>
      obtain ⟨decimal, rfl⟩ := Text.spanDigits_spec divided
      simp only [divided] at read
      split at read
      · cases read
      rename_i filled
      have decimal := Text.allDigits_iff.mpr ⟨by simpa using filled, decimal⟩
      simp only [Option.bind_eq_bind, Option.bind_eq_some_iff, Prod.exists, expect?_eq_some_iff] at read
      obtain ⟨_, rfl, _, after, next, read⟩ := read
      obtain ⟨minute, minutes, first, rfl, rfl⟩ := exists_sixtieth next
      split at read
      · cases read
        rw [List.append_nil]
        exact .minutes decimal first
      · simp only [Option.bind_eq_some_iff, Prod.exists, expect?_eq_some_iff] at read
        obtain ⟨_, rfl, _, _, last, read⟩ := read
        obtain ⟨second, seconds, final, rfl, rfl⟩ := exists_sixtieth last
        simp only [Option.ite_none_right_eq_some, List.isEmpty_iff, Option.some.injEq] at read
        obtain ⟨rfl, rfl⟩ := read
        rw [List.append_nil]
        exact .seconds decimal first final
  · intro spelled
    have divided (hours rest : List Char) (decimal : Text.allDigits hours = true) :
        hours.isEmpty = false ∧ Text.spanDigits (hours ++ ':' :: rest) = (hours, ':' :: rest) := by
      obtain ⟨filled, decimal⟩ := Text.allDigits_iff.mp decimal
      exact ⟨by simpa using filled, Text.spanDigits_append decimal (by rintro c ⟨⟩; decide)⟩
    cases spelled with
    | @minutes hours minutes minute decimal last =>
      obtain ⟨filled, divided⟩ := divided hours minutes decimal
      have read := sixtieths?_append last []
      rw [List.append_nil] at read
      simp [duration?, divided, filled, expect?_mark, read]
    | @seconds hours minutes seconds minute second decimal next last =>
      obtain ⟨filled, divided⟩ := divided hours (minutes ++ ':' :: seconds) decimal
      have read := sixtieths?_append last []
      rw [List.append_nil] at read
      simp [duration?, divided, filled, expect?_mark, sixtieths?_append next, read]

theorem number?_eq_some_iff {x : Number} : number? text = some x ↔ Number.Spells text x ∧ x.isFinite = true := by
  rw [number?, Option.filter_eq_some_iff, Number.ofDecimal?_eq_some_iff]

/-- Text that stands for a formula as it is, if there are formulas. -/
def IsFormula (formulas : Bool) (text : List Char) : Prop := formulas = true ∧ text.head? = some '='

/-- Text that stands for a value of one of the other kinds that no reader of dates is asked for. -/
def IsTruth (text : List Char) : Prop := ∃ value, Names (word value) text

def IsNumber (text : List Char) : Prop := ∃ x, Number.Spells text x ∧ x.isFinite = true

def IsDuration (text : List Char) : Prop := ∃ ms, SpellsDuration text ms

/-- What a text without white space around it stands for: nothing if it is blank, or else a value of the first kind that
it fits. -/
inductive Stands (formulas : Bool) (dateReader : List Char → DateReading) (text : List Char) : Option CellValue → Prop where
  | blank (empty : text = []) : Stands formulas dateReader text none
  | formula (first : IsFormula formulas text) : Stands formulas dateReader text (some (.formula (String.ofList text)))
  | boolean {value : Bool} (noFormula : ¬IsFormula formulas text) (names : Names (word value) text) :
      Stands formulas dateReader text (some (.boolean value))
  | number {x : Number} (noFormula : ¬IsFormula formulas text) (noTruth : ¬IsTruth text)
      (spelled : Number.Spells text x) (finite : x.isFinite = true) :
      Stands formulas dateReader text (some (.number x))
  | duration {ms : Number} (noFormula : ¬IsFormula formulas text) (noTruth : ¬IsTruth text) (noNumber : ¬IsNumber text)
      (spelled : SpellsDuration text ms) : Stands formulas dateReader text (some (.duration ms))
  | date {instant : Instant} (filled : text ≠ []) (noFormula : ¬IsFormula formulas text) (noTruth : ¬IsTruth text)
      (noNumber : ¬IsNumber text) (noDuration : ¬IsDuration text) (read : dateReader text = .valid instant) :
      Stands formulas dateReader text (some (.date (some instant)))
  | text (filled : text ≠ []) (noFormula : ¬IsFormula formulas text) (noTruth : ¬IsTruth text)
      (noNumber : ¬IsNumber text) (noDuration : ¬IsDuration text)
      (unread : ∀ instant, dateReader text ≠ .valid instant) :
      Stands formulas dateReader text (some (.text (String.ofList text)))

section detection
variable {formulas : Bool} {dateReader : List Char → DateReading} {typed : List Char} {value : Option CellValue}

private theorem boolean?_eq_none_iff : boolean? text = none ↔ ¬IsTruth text := by
  simp only [Option.eq_none_iff_forall_ne_some, IsTruth, not_exists, ne_eq, boolean?_eq_some_iff]

private theorem number?_eq_none_iff : number? text = none ↔ ¬IsNumber text := by
  simp only [Option.eq_none_iff_forall_ne_some, IsNumber, not_exists, ne_eq, number?_eq_some_iff]

private theorem duration?_eq_none_iff : duration? text = none ↔ ¬IsDuration text := by
  simp only [Option.eq_none_iff_forall_ne_some, IsDuration, not_exists, ne_eq, duration?_eq_some_iff]

private theorem isFormula_iff : (formulas && text.head? == some '=') = true ↔ IsFormula formulas text := by
  rw [Bool.and_eq_true, beq_iff_eq, IsFormula]

/-- The cascade of readers gives what the text stands for. -/
private theorem stands_detect : Stands formulas dateReader (Text.trim typed) (detect formulas dateReader typed) := by
  unfold detect
  generalize Text.trim typed = text
  dsimp only
  split
  · rename_i empty
    exact .blank (List.isEmpty_iff.mp empty)
  rename_i filled
  rw [List.isEmpty_iff] at filled
  split
  · rename_i first
    exact .formula (isFormula_iff.mp first)
  rename_i noFormula
  rw [isFormula_iff] at noFormula
  split
  · rename_i read
    exact .boolean noFormula (boolean?_eq_some_iff.mp read)
  rename_i noTruth
  rw [boolean?_eq_none_iff] at noTruth
  split
  · rename_i read
    obtain ⟨spelled, finite⟩ := number?_eq_some_iff.mp read
    exact .number noFormula noTruth spelled finite
  rename_i noNumber
  rw [number?_eq_none_iff] at noNumber
  split
  · rename_i read
    exact .duration noFormula noTruth noNumber (duration?_eq_some_iff.mp read)
  rename_i noDuration
  rw [duration?_eq_none_iff] at noDuration
  split
  · rename_i read
    exact .date filled noFormula noTruth noNumber noDuration read
  · rename_i unread
    exact .text filled noFormula noTruth noNumber noDuration unread

/-- A text stands for one thing only. -/
private theorem Stands.eq_detect (stands : Stands formulas dateReader (Text.trim typed) value) :
    detect formulas dateReader typed = value := by
  unfold detect
  generalize Text.trim typed = text at stands
  cases stands with
  | blank empty => simp [empty]
  | formula first =>
    obtain ⟨allowed, first⟩ := first
    have filled : text ≠ [] := by rintro rfl; cases first
    simp [filled, allowed, first]
  | boolean noFormula names =>
    have read := boolean?_eq_some_iff.mpr names
    have filled : text ≠ [] := by rintro rfl; cases read
    rw [← isFormula_iff] at noFormula
    simp [filled, noFormula, read]
  | number noFormula noTruth spelled finite =>
    have read := number?_eq_some_iff.mpr ⟨spelled, finite⟩
    have filled : text ≠ [] := by rintro rfl; cases read
    rw [← isFormula_iff] at noFormula
    simp [filled, noFormula, boolean?_eq_none_iff.mpr noTruth, read]
  | duration noFormula noTruth noNumber spelled =>
    have read := duration?_eq_some_iff.mpr spelled
    have filled : text ≠ [] := by rintro rfl; cases read
    rw [← isFormula_iff] at noFormula
    simp [filled, noFormula, boolean?_eq_none_iff.mpr noTruth, number?_eq_none_iff.mpr noNumber, read]
  | date filled noFormula noTruth noNumber noDuration read =>
    rw [← isFormula_iff] at noFormula
    simp [filled, noFormula, boolean?_eq_none_iff.mpr noTruth, number?_eq_none_iff.mpr noNumber,
      duration?_eq_none_iff.mpr noDuration, read]
  | text filled noFormula noTruth noNumber noDuration unread =>
    rw [← isFormula_iff] at noFormula
    simp only [List.isEmpty_iff, filled, noFormula, boolean?_eq_none_iff.mpr noTruth, number?_eq_none_iff.mpr noNumber,
      duration?_eq_none_iff.mpr noDuration, Bool.false_eq_true, if_false]

end detection

/-- What typed text is detected as is what it stands for without the white space around it, whatever the reader of dates
answers, and the content of a text or of a formula is detected as the same again. -/
theorem detects_first_kind (formulas : Bool) (dateReader : List Char → DateReading) (typed : List Char) :
    (∀ value, detect formulas dateReader typed = value ↔ Stands formulas dateReader (Text.trim typed) value) ∧
      detect formulas dateReader (Text.trim typed) = detect formulas dateReader typed ∧
      ∀ content, detect formulas dateReader typed = some (.text content) ∨
        detect formulas dateReader typed = some (.formula content) →
        detect formulas dateReader content.toList = detect formulas dateReader typed := by
  have trimmed : detect formulas dateReader (Text.trim typed) = detect formulas dateReader typed := by
    rw [detect, detect, Text.trim_trim]
  refine ⟨fun value => ⟨fun same => same ▸ stands_detect, Stands.eq_detect⟩, trimmed, ?_⟩
  intro content shown
  have stands : Stands formulas dateReader (Text.trim typed) (detect formulas dateReader typed) := stands_detect
  have whole : content = String.ofList (Text.trim typed) := by
    rcases shown with shown | shown
    all_goals
      rw [shown] at stands
      cases stands
      rfl
  rw [whole, String.toList_ofList, trimmed]

/-- A number that is too large is a text, and so is what is in it. -/
theorem detects_text_overflow :
    detect true readDate " 1e400 ".toList = some (.text "1e400") ∧
      detect true readDate "1e400".toList = detect true readDate " 1e400 ".toList := by
  have shown : detect true readDate " 1e400 ".toList = some (.text "1e400") := by decide +kernel
  exact ⟨shown, (detects_first_kind true readDate " 1e400 ".toList).2.2 "1e400" (.inl shown)⟩

end CellValue
end Spreadsheet
