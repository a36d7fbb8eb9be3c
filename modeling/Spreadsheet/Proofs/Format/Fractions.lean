import Spreadsheet.Proofs.Format.Denominators
import Spreadsheet.Proofs.Number.Parts

/-! Numbers as fractions over a denominator that the code names. The numerator is the nearest one to what is left beside
the whole part; where it is zero or reaches the denominator, a whole number is all that shows. -/
namespace Spreadsheet.Format
attribute [local instance (high)] instPowNat

/-- What a magnitude shows as over a denominator: a whole number, which is the whole part or the next one, or a fraction
below one with the whole part before it, if there is one. -/
inductive ShownOver (d : Nat) (y : Number) : List Char → Prop
  | whole {number : Number} {f w : Nat} (floor : y.floor.toInt? = some (f : Int)) (near : w = f ∨ w = f + 1)
      (is : number.toInt? = some (w : Int)) : ShownOver d y number.text
  | proper {k : Nat} (floor : y.floor.toInt? = some 0)
      (part : ((y - y.floor) * .ofInt d).round.toInt? = some (k : Int)) (positive : 0 < k) (less : k < d) :
      ShownOver d y (Text.numeral k ++ '/' :: Text.numeral d)
  | mixed {f k : Nat} (floor : y.floor.toInt? = some (f : Int)) (more : 0 < f)
      (part : ((y - y.floor) * .ofInt d).round.toInt? = some (k : Int)) (positive : 0 < k) (less : k < d) :
      ShownOver d y (Text.numeral f ++ ' ' :: Text.numeral k ++ '/' :: Text.numeral d)

variable {d : Nat} {y : Number}

theorem fillInteger_hash (digits : List Char) : fillInteger digits ['#'] none = digits := by
  by_cases none : digits = [] <;> simp [fillInteger, placeDigits, isPlaceholder, padding, none]

theorem padLeftTo_numeral (k : Nat) : padLeftTo ['?'] (Text.numeral k) = Text.numeral k := by
  have some : 0 < (Text.numeral k).length := List.length_pos_iff.mpr (Text.numeral_ne_nil k)
  rw [padLeftTo, List.length_singleton, show 1 - (Text.numeral k).length = 0 by omega]
  rfl

theorem same_iff {x : Number} {a b : Int} (first : x.toInt? = some a) (second : y.toInt? = some b) :
    x.same y = decide (a = b) := by
  have one : (Number.unitsPerOne : Int) ≠ 0 := by exact_mod_cast Number.unitsPerOne_pos.ne'
  rw [Bool.eq_iff_iff, decide_eq_true_iff,
    Number.same_iff_units (Number.toInt?_eq_some_iff.mp first) (Number.toInt?_eq_some_iff.mp second)]
  exact Int.mul_eq_mul_right_iff one

/-- A whole number that stands alone shows with its text; zero does although the code has no place for it. -/
theorem wholeText_eq {whole : Number} {w : Nat} (is : whole.toInt? = some (w : Int)) :
    (if (Text.trim (if w = 0 then [] else whole.text)).isEmpty then ['0'] else if w = 0 then [] else whole.text) =
      whole.text := by
  by_cases zero : w = 0
  · subst zero
    rw [Number.text_of_toInt? is (by decide)]
    rfl
  · obtain ⟨some, chars⟩ := Number.mem_text (Number.isFinite_iff.mpr ⟨_, Number.toInt?_eq_some_iff.mp is⟩)
    have marks : ∀ c ∈ Number.textMarks, Text.isBlank c = false := List.all_iff_forall_prop.mp (by decide)
    have visible : ∀ c ∈ whole.text, Text.isBlank c = false := by
      intro c member
      rcases chars c member with digit | mark
      · exact Text.not_isBlank_of_isAlphanum (by simp [Char.isAlphanum, digit])
      · exact marks c mark
    have trimmed : Text.trim whole.text = whole.text :=
      Text.trim_eq_self (fun c member => visible c (List.mem_of_mem_head? member))
        fun c member => visible c (List.mem_of_getLast? member)
    rw [if_neg zero, trimmed, if_neg (by simpa using some)]

/-- A numerator that reaches the denominator counts on into the whole part. -/
theorem mixedParts?_over (y : Number) (d : Nat) : mixedParts? y (overFraction d) =
    some (if ((y - y.floor) * .ofInt d).round.same (.ofInt d) then (y.floor + .ofInt 1, .ofInt 0, .ofInt d)
      else (y.floor, ((y - y.floor) * .ofInt d).round, .ofInt d)) := rfl

section parts
variable {whole numerator : Number} {w k : Nat}
  (parts : mixedParts? y (overFraction d) = some (whole, numerator, .ofInt d))
  (is : whole.toInt? = some (w : Int)) (counted : numerator.toInt? = some (k : Int))
include parts is counted

theorem fractionText?_of_zero (none : k = 0) : fractionText? y (overFraction d) = some whole.text := by
  have zero : (Number.ofInt 0).toInt? = some 0 := by decide +kernel
  have alone := wholeText_eq is
  have first : whole.same (.ofInt 0) = decide (w = 0) := by simpa using same_iff is zero
  have second : numerator.same (.ofInt 0) = true := by simpa [none] using same_iff counted zero
  unfold fractionText?
  rw [parts, Option.map_some]
  simp only [overFraction, Scalar.same, Scalar.ofInt, Scalar.text, first, second, fillInteger_hash, decide_eq_true_eq,
    List.isEmpty_cons, Bool.not_false, ↓reduceIte, alone]

theorem fractionText?_of_pos (positive : 0 < k) (few : k < 2 ^ (53 : Nat)) (short : w < 2 ^ (53 : Nat))
    (small : d < 2 ^ (53 : Nat)) : fractionText? y (overFraction d) =
      some ((if w = 0 then [] else Text.numeral w ++ [' ']) ++ Text.numeral k ++ '/' :: Text.numeral d) := by
  have zero : (Number.ofInt 0).toInt? = some 0 := by decide +kernel
  have first : whole.same (.ofInt 0) = decide (w = 0) := by simpa using same_iff is zero
  have second : numerator.same (.ofInt 0) = false := by simpa [positive.ne'] using same_iff counted zero
  have below := Number.text_of_toInt? (Number.toInt?_ofInt (k := d) (by simpa using small)) small
  unfold fractionText?
  rw [parts, Option.map_some]
  simp only [overFraction, Scalar.same, Scalar.ofInt, Scalar.text, first, second, fillInteger_hash, decide_eq_true_eq,
    Number.text_of_toInt? is short, Number.text_of_toInt? counted few, below, padLeftTo_numeral]
  by_cases none : w = 0 <;> simp [none]

end parts

/-- A magnitude under the pattern. -/
theorem exists_shownOver (positive : 0 < d) (small : d < 2 ^ (53 : Nat)) {u : Nat}
    (units : y.units? = some (u : Int)) : ∃ text, fractionText? y (overFraction d) = some text ∧ ShownOver d y text := by
  obtain ⟨f, k, floor, part, below, few⟩ := Number.exists_parts units small
  have parts := mixedParts?_over y d
  have carries := same_iff part (Number.toInt?_ofInt (k := d) (by simpa using small))
  by_cases carried : k = d
  · have less : f < 2 ^ (52 : Nat) := few (by omega)
    have next : (y.floor + .ofInt 1).toInt? = some ((f + 1 : Nat) : Int) :=
      Number.toInt?_add floor (b := 1) (by decide +kernel) (by omega)
    rw [carries, decide_eq_true (by exact_mod_cast carried), if_pos rfl] at parts
    exact ⟨_, fractionText?_of_zero parts next (k := 0) (by decide +kernel) rfl, .whole floor (.inr rfl) next⟩
  · rw [carries, decide_eq_false (by exact_mod_cast carried), if_neg (by decide)] at parts
    rcases Nat.eq_zero_or_pos k with none | some
    · exact ⟨_, fractionText?_of_zero parts floor part none, .whole floor (.inl rfl) floor⟩
    · have short : f < 2 ^ (52 : Nat) := few some.ne'
      refine ⟨_, fractionText?_of_pos parts floor part some (by omega) (by omega) small, ?_⟩
      rcases Nat.eq_zero_or_pos f with rfl | more
      · exact .proper floor part some (by omega)
      · rw [if_neg more.ne']
        simpa using ShownOver.mixed floor more part some (Nat.lt_of_le_of_ne below carried)

theorem ShownOver.plain {text : List Char} (shown : ShownOver d y text) : ∀ c ∈ text, placeholderIndex? c = none := by
  cases shown with
  | whole => exact plain_text _
  | proper => simpa only [List.forall_mem_append, List.forall_mem_cons] using ⟨plain_numeral _, rfl, plain_numeral d⟩
  | mixed =>
    simp only [List.cons_append, List.append_assoc, List.forall_mem_append, List.forall_mem_cons]
    exact ⟨plain_numeral _, rfl, plain_numeral _, rfl, plain_numeral d⟩

/-- The number that shows for a magnitude: under percentages, how many hundredths it has. -/
def shownAmount (category : Category) (magnitude : Number) : Number :=
  if category = .percentage then magnitude * 100 else magnitude

theorem patternText?_overPattern (magnitude : Number) (trail : List Char) (locale : Locale) (category : Category) :
    patternText? magnitude (overPattern d trail) locale category =
      (fractionText? (shownAmount category magnitude) (overFraction d)).map fun text =>
        text ++ trail ++ if category = .percentage then ['%'] else [] := by
  have thousand : Number.power 1000 0 = 1 := rfl
  have hundred : Number.power 100 1 = 100 := rfl
  have once : Number.power 100 0 = 1 := rfl
  by_cases percentage : category = .percentage
  · simp [patternText?, overPattern, shownAmount, percentage, thousand, hundred, Number.div_one]
    rfl
  · simp [patternText?, overPattern, shownAmount, percentage, thousand, once, Number.div_one, Number.mul_one]
    rfl

/-- An amount that is finite is that of a finite number, and not negative. -/
theorem exists_units_shownAmount {category : Category} {x : Number}
    (finite : (shownAmount category x.abs).isFinite = true) :
    x.isFinite = true ∧ ∃ u : Nat, (shownAmount category x.abs).units? = some (u : Int) := by
  refine ⟨?_, Number.exists_units_of_isNegative finite ?_⟩
  · unfold shownAmount at finite
    cases x with
    | nan => split at finite <;> cases finite
    | infinite negative => split at finite <;> cases finite
    | finite negative s e canonical => rfl
  · unfold shownAmount
    cases x with
    | nan => split <;> rfl
    | infinite negative => split <;> rfl
    | finite negative s e canonical =>
      split
      · exact Number.isNegative_ofScaled false _ _
      · rfl

/-- A denominator of fewer than fifty-four bits is read as a whole if none of its digits is zero or the last one is. A
number shows over it as a whole number or as a fraction with its whole part, in every category; that for percentages
shows hundredths and a percent sign. -/
theorem Renderer.format_over {renderer : Renderer} (reachable : renderer.Reachable) (positive : 0 < d)
    (small : d < 2 ^ (53 : Nat)) (ends : d % 10 = 0 ∨ '0' ∉ Text.numeral d) (category : Category) :
    let format : CellFormat := ⟨category, String.ofList (overCode (Text.numeral d))⟩
    (∃ section_, format.parsed.numericSections = [section_] ∧ section_.content = .digits (overPattern d [])) ∧
    ∀ (x : Number) (options : RenderOptions), (shownAmount category x.abs).isFinite = true →
      ∃ text, ShownOver d (shownAmount category x.abs) text ∧
        (renderer.format (.number x) format options).1 =
          ⟨(if x < 0 then ['-'] else []) ++ text ++ (if category = .percentage then ['%'] else []), none⟩ := by
  intro format
  have pattern : IsPattern (overCode (Text.numeral d)) := isPattern_overCode fun c => Text.isDigit_of_mem_numeral
  have read := parse_overCode_numeral positive ends
  constructor
  · obtain ⟨section_, only, -, content⟩ := pattern.exists_section category
    exact ⟨section_, only, by rw [content, read]⟩
  · intro x options finite
    obtain ⟨number, u, units⟩ := exists_units_shownAmount finite
    obtain ⟨text, written, shown⟩ := exists_shownOver positive small units
    have filled := patternText?_overPattern x.abs [] (options.locale.getD renderer.locale) category (d := d)
    rw [← read, written, Option.map_some, List.append_nil] at filled
    have rendered := pattern.render?_eq number (options.context category renderer.locale) category filled
    have plain : unreserved (text ++ if category = .percentage then ['%'] else []) =
        text ++ if category = .percentage then ['%'] else [] := by
      rw [unreserved_append, unreserved_eq_self shown.plain]
      split <;> rfl
    refine ⟨text, shown, ?_⟩
    rw [reachable.format_eq, rendered?, CellFormat.parsed, rendered, Option.getD_some, plain, List.append_assoc]

/-- Two and a half over a denominator that ends with a zero. -/
theorem Renderer.format_over_hundred_twenty :
    ((0 < 120 ∧ 120 < 2 ^ (53 : Nat) ∧ 120 % 10 = 0) ∧
      (shownAmount .fraction (Number.ofRatio false 5 2).abs).isFinite = true) ∧
    ∃ text, ShownOver 120 (shownAmount .fraction (Number.ofRatio false 5 2).abs) text ∧
      ((new .enUs).format (.number (.ofRatio false 5 2)) ⟨.fraction, "# ?/120"⟩ {}).1 = ⟨text, none⟩ := by
  have finite : (shownAmount .fraction (Number.ofRatio false 5 2).abs).isFinite = true := by decide +kernel
  obtain ⟨_, shows⟩ := Renderer.format_over (d := 120) ⟨.enUs, [], rfl⟩ (by decide) (by decide) (.inl (by decide)) .fraction
  obtain ⟨text, shown, rendered⟩ := shows (.ofRatio false 5 2) {} finite
  refine ⟨⟨by decide, finite⟩, text, shown, rendered.trans ?_⟩
  rw [if_neg (by decide +kernel), if_neg (by decide), List.nil_append, List.append_nil]

/-- A denominator with a zero inside is read up to this zero, and the digit behind it is printed after the fraction. -/
theorem Renderer.format_over_hundred_five :
    DigitPattern.parse "# ?/105".toList = overPattern 10 ['5'] ∧
    ((new .enUs).format (.number (.ofRatio false 1 2)) ⟨.fraction, "# ?/105"⟩ {}).1.text = "5/105".toList ∧
    ((new .enUs).format (.number (.ofRatio false 3 2)) ⟨.fraction, "# ?/101"⟩ {}).1.text = "1 5/101".toList := by
  decide +kernel

end Spreadsheet.Format
