import Spreadsheet.Proofs.Format.Patterns
import Spreadsheet.Proofs.Number.Fixed

/-! Characters without a meaning that stand after a digit. They come through the reading of the code one by one and are
printed behind the number as they are written; only the characters for private use, which stand for literals inside, are
lost when literals are put back. -/
namespace Spreadsheet.Format

/-- Signs that mean something in a code: places for digits, marks of numbers, brackets, the sign for text, and marks of
literals and sections. -/
def codeSigns : List Char := "0#?,.%/@[]\"\\_*;".toList

/-- Letters that mean something in a code: those of an exponent and of dates and times. -/
def codeLetters : List Char := "eymdhs".toList

/-- A character that means nothing in a code, in either case. -/
def IsUnrecognized (c : Char) : Prop := c ∉ codeSigns ∧ c.toLower ∉ codeLetters

instance (c : Char) : Decidable (IsUnrecognized c) :=
  inferInstanceAs (Decidable (c ∉ codeSigns ∧ c.toLower ∉ codeLetters))

/-- The slash has no other case. -/
private theorem eq_slash_of_toLower {c : Char} (same : c.toLower = '/') : c = '/' := by
  have code := Text.toNat_toLower c
  rw [same] at code
  change 47 = _ at code
  apply Char.toNat_inj.mp
  change _ = 47
  split at code <;> omega

section tail
variable {tail : List Char} (unrecognized : ∀ c ∈ tail, IsUnrecognized c)
include unrecognized

private theorem ne_of_mem_codeSigns {sign : Char} (means : sign ∈ codeSigns) : ∀ c ∈ tail, c ≠ sign := by
  rintro c member rfl
  exact (unrecognized c member).1 means

private theorem toLower_ne_of_mem_codeLetters {letter : Char} (means : letter ∈ codeLetters) :
    ∀ c ∈ tail, c.toLower ≠ letter := by
  rintro c member rfl
  exact (unrecognized c member).2 means

/-- Each of the words has an `e`, an `m` or a slash. -/
theorem isDigits_trailing : IsDigits ('0' :: tail) where
  clean := by
    have signs : ∀ c ∈ '@' :: '[' :: noted, c ∈ codeSigns := List.all_iff_forall_prop.mp (by decide)
    have letters : ∀ c ∈ "ymdhs".toList, c ∈ codeLetters := List.all_iff_forall_prop.mp (by decide)
    refine List.forall_mem_cons.mpr ⟨by decide, fun c member => ?_⟩
    obtain ⟨sign, letter⟩ := unrecognized c member
    refine ⟨sign ∘ signs c, ?_⟩
    rw [isDateLetter, ← Bool.not_eq_true, List.contains_iff_mem]
    exact letter ∘ letters c.toLower
  wordless := by
    have slash : ∀ c ∈ tail, c.toLower ≠ '/' := fun c member same =>
      ne_of_mem_codeSigns unrecognized (by decide) c member (eq_slash_of_toLower same)
    have missing {letter : Char} (zero : '0'.toLower ≠ letter) (others : ∀ c ∈ tail, c.toLower ≠ letter) :
        ∀ c ∈ '0' :: tail, c.toLower ≠ letter := List.forall_mem_cons.mpr ⟨zero, others⟩
    simp only [List.forall_mem_cons]
    refine ⟨?general, ?meridian, ?short, fun _ none => nomatch none⟩
    case general =>
      exact Text.splitAtIgnoringCase_eq_none _ 'e' (by decide)
        (missing (by decide) (toLower_ne_of_mem_codeLetters unrecognized (by decide)))
    case meridian => exact Text.splitAtIgnoringCase_eq_none _ '/' (by decide) (missing (by decide) slash)
    case short => exact Text.splitAtIgnoringCase_eq_none _ '/' (by decide) (missing (by decide) slash)
  placed := rfl

/-- The zero is all of the pattern. -/
theorem parse_trailing : DigitPattern.parse ('0' :: tail) =
    { lead := [], trail := tail, integer := ['0'], scale := 0, percents := 0 } := by
  have lacks (sign : Char) (means : sign ∈ codeSigns) := ne_of_mem_codeSigns unrecognized means
  have last : lastIndex? isPlaceholder ('0' :: tail) = some 0 := by
    refine lastIndex?_append rfl [] tail fun c member => ?_
    simp [isPlaceholder, lacks '0' (by decide) c member, lacks '#' (by decide) c member,
      lacks '?' (by decide) c member]
  have slash : ('0' :: tail).findIdx? (· == '/') = none := by
    rw [List.findIdx?_eq_none_iff]
    exact List.forall_mem_cons.mpr ⟨by decide, fun c member => beq_eq_false_iff_ne.mpr (lacks '/' (by decide) c member)⟩
  have bounds : DigitPattern.bounds ('0' :: tail) = (0, 1) := bounds_of_last rfl last (by simp [slash])
  have commas : tail.takeWhile (· == ',') = [] := by
    cases tail with
    | nil => rfl
    | cons c rest => simp [lacks ',' (by decide) c List.mem_cons_self]
  have percents : ('0' :: tail).count '%' = 0 :=
    List.count_eq_zero.mpr
      (List.not_mem_cons_of_ne_of_not_mem (by decide) fun member => lacks '%' (by decide) '%' member rfl)
  unfold DigitPattern.parse
  simp [bounds, commas, percents, DigitPattern.exponentAt?, DigitPattern.withMantissa]

/-- A finite number is filled into the zero, and the rest of the code follows. -/
theorem exists_patternText? {x : Number} (finite : x.isFinite = true) (locale : Locale) :
    ∃ digits, patternText? x (.parse ['0']) locale .number = some digits ∧
      patternText? x (.parse ('0' :: tail)) locale .number = some (digits ++ tail) := by
  have zero : DigitPattern.parse ['0'] = { lead := [], trail := [], integer := ['0'], scale := 0, percents := 0 } :=
    parse_trailing fun _ none => nomatch none
  have one (base : Nat) : Number.power base 0 = 1 := rfl
  obtain ⟨text, fixed⟩ := Number.exists_fixed?_zero finite
  rw [parse_trailing unrecognized, zero]
  simp [patternText?, one, Number.div_one, Number.mul_one, fixedText?, Scalar.fixed?, fixed]

/-- Characters without a meaning after a zero are printed behind the number as they are written, but for those for
private use, which are left out: they are carried through if and only if there are none of these among them. This holds
in any locale and whatever the renderer has been asked before. -/
theorem Renderer.format_trailing {renderer : Renderer} (reachable : renderer.Reachable) {x : Number}
    (finite : x.isFinite = true) (above : ¬x < 0) (options : RenderOptions) :
    let bare := (renderer.format (.number x) ⟨.number, "0"⟩ options).1
    let shown := (renderer.format (.number x) ⟨.number, String.ofList ('0' :: tail)⟩ options).1
    shown = ⟨bare.text ++ unreserved tail, bare.color⟩ ∧
      (shown.text = bare.text ++ tail ↔ ∀ c ∈ tail, placeholderIndex? c = none) := by
  intro bare shown
  have magnitude : x.abs.isFinite = true := by rwa [Number.isFinite_abs]
  obtain ⟨digits, short, long⟩ :=
    exists_patternText? unrecognized magnitude (options.locale.getD renderer.locale)
  have printed {code : List Char} (reads : IsDigits code) {text : List Char}
      (filled : patternText? x.abs (.parse code) (options.locale.getD renderer.locale) .number = some text) :
      (renderer.format (.number x) ⟨.number, String.ofList code⟩ options).1 = ⟨unreserved text, none⟩ := by
    rw [reachable.format_eq, rendered?, CellFormat.parsed,
      reads.render?_eq finite (options.context .number renderer.locale) .number filled, Option.getD_some, if_neg above,
      List.nil_append]
  have nothing : ∀ c ∈ ([] : List Char), IsUnrecognized c := fun _ member => absurd member List.not_mem_nil
  have first : bare = ⟨unreserved digits, none⟩ := printed (isDigits_trailing nothing) short
  have second : shown = ⟨unreserved digits ++ unreserved tail, none⟩ := by
    rw [← unreserved_append]
    exact printed (isDigits_trailing unrecognized) long
  rw [first, second]
  refine ⟨rfl, ?_⟩
  rw [List.append_cancel_left_eq, unreserved, List.filter_eq_self]
  simp only [Option.isNone_iff_eq_none]

end tail

/-- Text of another script, with a sign outside the basic plane and a currency sign. -/
theorem Renderer.format_trailing_currency :
    let tail := "€ für 😀$9-".toList
    (∀ c ∈ tail, IsUnrecognized c) ∧ (Number.ofNat 3).isFinite = true ∧ ¬Number.ofNat 3 < 0 ∧
      let bare := ((new .deDe).format (.number (.ofNat 3)) ⟨.number, "0"⟩ {}).1
      let shown := ((new .deDe).format (.number (.ofNat 3)) ⟨.number, String.ofList ('0' :: tail)⟩ {}).1
      shown = ⟨bare.text ++ unreserved tail, bare.color⟩ ∧
        (shown.text = bare.text ++ tail ↔ ∀ c ∈ tail, placeholderIndex? c = none) := by
  intro tail
  have unrecognized : ∀ c ∈ tail, IsUnrecognized c := List.all_iff_forall_prop.mp (by decide)
  have finite : (Number.ofNat 3).isFinite = true := by decide +kernel
  have above : ¬Number.ofNat 3 < 0 := by decide +kernel
  exact ⟨unrecognized, finite, above, Renderer.format_trailing unrecognized ⟨.deDe, [], rfl⟩ finite above {}⟩

/-- A character for private use is lost. -/
theorem Renderer.format_trailing_private :
    IsUnrecognized '\uE000' ∧
    ((new .enUs).format (.number 1) ⟨.number, "0"⟩ {}).1.text = ['1'] ∧
    ((new .enUs).format (.number 1) ⟨.number, "0\uE000"⟩ {}).1.text = ['1'] := by
  decide +kernel

end Spreadsheet.Format
