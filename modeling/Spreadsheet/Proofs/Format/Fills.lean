import Spreadsheet.Proofs.Format.Digits
import Spreadsheet.Proofs.Format.Tokens

/-! Fills. What a section prints for a value has the character that stands for its fill once, wherever currency and sign
are put. So the fill is printed in one place: as a space where no width is given, and else as often as it takes to use
up the width that the rest of the text leaves. -/
namespace Spreadsheet

theorem Text.units_replicate (count : Nat) (c : Char) : units (List.replicate count c) = count * charUnits c := by
  induction count with
  | zero => rw [Nat.zero_mul]; rfl
  | succ count ih => rw [List.replicate_succ, units, ih, Nat.succ_mul, Nat.add_comm]

namespace Format
attribute [local instance (high)] instPowNat

/-- Digits are read off the body of a section. -/
theorem Content.classify_eq_digits {body : List Char} {elapsed : Bool} {category : Category} {pattern : DigitPattern}
    (content : classify body elapsed category = .digits pattern) :
    body.any isPlaceholder = true ∧ pattern = .parse body := by
  unfold classify at content
  split at content
  · cases content
  split at content
  · cases content
  split at content
  · cases content
  split at content
  · rename_i placed
    cases content
    exact ⟨placed, rfl⟩
  · cases content

/-- So are the tokens of dates. -/
theorem Content.classify_eq_dateTime {body : List Char} {elapsed : Bool} {category : Category} {tokens : List DateToken}
    (content : classify body elapsed category = .dateTime tokens) : tokens = DateToken.tokenize body category := by
  unfold classify at content
  split at content
  · cases content
  split at content
  · cases content
    rfl
  split at content
  · cases content
  split at content <;> cases content

namespace Section

/-- A literal stands neither in the digits of an exponent nor in a fraction. -/
def Outside (section_ : Section) (index : Nat) : Prop :=
  ∀ pattern, section_.content = .digits pattern → pattern.exponent.isSome = true ∨ pattern.fraction.isSome = true →
    placeholder index ∈ pattern.outer

/-- What a section prints for a value that counts days, before currency, sign and literals are put in place, and whether
a sign is put before it. -/
def printed? (section_ : Section) (value : CellValue) (days : Number) (showSign : Bool) (category : Category)
    (locale : Locale) : Option (List Char × Bool) :=
  match section_.content with
  | .general =>
    let shown := if value.isNumber then generalText days.abs locale else value.display.toList
    some (match Text.splitAtIgnoringCase "general".toList section_.body with
      | some (before, after) => before ++ shown ++ after
      | none => section_.body, showSign && value.isNumber)
  | .dateTime tokens =>
    if tokens.any DateToken.isElapsed || category = .duration then
      some (elapsedText tokens (elapsedMs value days.abs) locale, showSign)
    else
      let instant := match value with
        | .date instant => instant
        | _ => Instant.ofSerial? days
      (dateText? tokens instant locale).map (·, false)
  | .digits pattern => (patternText? days.abs pattern locale category).map (·, showSign)
  | .text => some (replaceTextSigns section_.body (generalText days.abs locale), showSign)
  | .literal => some (section_.body, showSign)

theorem renderNumber?_eq {format : ParsedFormat} {section_ : Section} {value : CellValue} {days : Number}
    {showSign : Bool} (finite : days.isFinite = true)
    (selected : selectSection format.numericSections days = some (section_, showSign)) (context : Context) :
    renderNumber? days value format context =
      (section_.printed? value days showSign context.category (section_.localeIn context)).bind fun (body, sign) =>
        finish? section_ body sign context (section_.localeIn context) := by
  simp only [renderNumber?, finite, ↓reduceIte, selected, printed?]
  cases section_.content with
  | general => rfl
  | text => rfl
  | literal => rfl
  | dateTime tokens =>
    dsimp only
    split
    · rfl
    · rw [Option.bind_map]
      rfl
  | digits pattern =>
    dsimp only
    rw [Option.bind_map]
    rfl

/-- The character that stands for a literal is printed once. -/
theorem Bears.count_printed? {section_ : Section} {index : Nat} (bears : section_.Bears (placeholder index))
    (outside : section_.Outside index) {category : Category}
    (content : section_.content = Content.classify section_.body section_.elapsed category) {locale : Locale}
    (lacks : locale.Lacks (placeholder index)) {value : CellValue} {days : Number} (counted : days? value = some days)
    {showSign sign : Bool} {body : List Char}
    (printed : section_.printed? value days showSign category locale = some (body, sign)) :
    body.count (placeholder index) = 1 := by
  have reserved := bears.reserved
  have once := bears.once
  have general (x : Number) := reserved.not_mem_generalText lacks x
  unfold printed? at printed
  cases kind : section_.content with
  | general =>
    rw [kind] at printed
    cases printed
    have shown : placeholder index ∉ if value.isNumber then generalText days.abs locale else value.display.toList := by
      split
      · exact general _
      · exact reserved.not_mem_display counted
    split
    · rename_i before after cut
      have word : placeholder index ∉ "general".toList.map Char.toLower :=
        reserved.not_mem_of_all (by decide)
      have kept := reserved.count_splitAtIgnoringCase word cut
      rw [List.count_append, List.count_append, List.count_eq_zero.mpr shown, Nat.add_zero, ← List.count_append, kept,
        once]
    · exact once
  | dateTime tokens =>
    have tokens_eq := Content.classify_eq_dateTime (content.symm.trans kind)
    have written := DateToken.count_tokenize reserved section_.body category
    rw [kind] at printed
    dsimp only at printed
    split at printed
    · cases printed
      rw [count_elapsedText reserved lacks, tokens_eq, written, once]
    · obtain ⟨text, shown, ⟨⟩⟩ := Option.map_eq_some_iff.mp printed
      rw [count_dateText? reserved lacks shown, tokens_eq, written, once]
  | digits pattern =>
    obtain ⟨placed, rfl⟩ := Content.classify_eq_digits (content.symm.trans kind)
    rw [kind] at printed
    obtain ⟨text, shown, ⟨⟩⟩ := Option.map_eq_some_iff.mp printed
    exact count_patternText? reserved lacks placed once (outside _ kind) shown
  | text =>
    rw [kind] at printed
    cases printed
    rw [count_replaceTextSigns (reserved.ne rfl) (general _), once]
  | literal =>
    rw [kind] at printed
    cases printed
    exact once

end Section

section currency
variable {section_ : Section} {mark : Char} (bears : section_.Bears mark)
include bears

/-- A currency takes the place of a sign of one, and of nothing else. -/
theorem Section.Bears.count_replaceGlyph? {text symbol replaced : List Char} {overrides : List (Nat × List Char)}
    (lacks : mark ∉ symbol) (replaces : replaceGlyph? section_ text symbol = some (replaced, overrides)) :
    replaced.count mark = text.count mark := by
  unfold replaceGlyph? at replaces
  split at replaces
  · rename_i place found
    cases replaces
    obtain ⟨inside, glyph, _⟩ := List.findIdx?_eq_some_iff_getElem.mp found
    have other : text[place] ≠ mark := by
      intro same
      have plain : mark ∉ currencyGlyphs := bears.reserved.not_mem_of_all (by decide)
      exact plain (same ▸ List.contains_iff_mem.mp glyph)
    have whole := congrArg (List.count mark) (List.take_append_drop place text)
    rw [List.count_append, ← List.cons_getElem_drop_succ (h := inside), List.count_cons_of_ne other] at whole
    rw [List.count_append, List.count_append, List.count_eq_zero.mpr lacks, Nat.add_zero, whole]
  · obtain ⟨entry, -, ⟨⟩⟩ := Option.map_eq_some_iff.mp replaces
    rfl

theorem Section.Bears.count_applyCurrency {locale : Locale} (lacks : locale.Lacks mark) (text : List Char)
    (context : Context) : (applyCurrency section_ text context locale).1.count mark = text.count mark := by
  unfold applyCurrency
  split
  · rfl
  · split
    · cases replaces : replaceGlyph? section_ text locale.currency.toList with
      | some replaced => exact bears.count_replaceGlyph? lacks.currency replaces
      | none =>
        rw [Option.getD_none, List.count_append, List.count_eq_zero.mpr lacks.currency, Nat.zero_add]
    · rfl
  · rename_i symbol named currency
    split
    · rfl
    · exact bears.count_replaceGlyph? (bears.currency _ currency) ‹_›

end currency

/-- A text with a character that stands for a literal in one place is the text around what is put there. -/
theorem Section.exists_restore {index : Nat} (inside : index < maxLiterals) {text : List Char}
    (once : text.count (placeholder index) = 1) (extract : Extract) (overrides : List (Nat × List Char)) :
    ∃ before after, ∀ fill, restore extract ((index, fill) :: overrides) text = before ++ fill ++ after := by
  obtain ⟨front, back, rfl⟩ := List.append_of_mem (List.one_le_count_iff.mp once.ge)
  rw [List.count_append, List.count_cons_self] at once
  have first : placeholder index ∉ front := List.count_eq_zero.mp (by omega)
  have second : placeholder index ∉ back := List.count_eq_zero.mp (by omega)
  have others {part : List Char} (lacks : placeholder index ∉ part) (fill : List Char) :
      restore extract ((index, fill) :: overrides) part = restore extract overrides part := by
    unfold restore
    rw [List.flatMap_def, List.flatMap_def]
    refine congrArg List.flatten (List.map_congr_left fun c member => ?_)
    cases stands : placeholderIndex? c with
    | none => rfl
    | some place =>
      have other : (place == index) = false :=
        beq_eq_false_iff_ne.mpr fun same => lacks (eq_placeholder (same ▸ stands) ▸ member)
      simp [List.lookup_cons, other]
  refine ⟨restore extract overrides front, restore extract overrides back, fun fill => ?_⟩
  rw [← others first fill, ← others second fill]
  simp [restore, placeholderIndex?_placeholder inside]

/-- The fill takes up what is left of the width. -/
theorem fillCount?_eq {width charWidth : Number} {room used : Nat}
    (fits : (width / charWidth).floor.toInt? = some (room : Int)) (short : max room used ≤ maxUnits) :
    fillCount? width charWidth used = some (room - used) := by
  unfold maxUnits at short
  have beside : (Number.ofNat used).toInt? = some (used : Int) := Number.toInt?_ofNat (by omega)
  have left := Number.toInt?_sub fits beside (by omega)
  have one : (0 : Int) < Number.unitsPerOne := by exact_mod_cast Number.unitsPerOne_pos
  have units := Number.toInt?_eq_some_iff.mp left
  unfold fillCount?
  generalize (width / charWidth).floor - Number.ofNat used = rest at left units
  have full : rest ≤ 0 ↔ (room : Int) - used ≤ 0 := by
    rw [Number.le_iff_units units Number.zero_units, ← Int.not_lt, ← Int.not_lt, mul_pos_iff_of_pos_right one]
  split
  · cases left
  · by_cases none : room ≤ used
    · rw [if_pos (full.mpr (by omega)), Nat.sub_eq_zero_of_le none]
    · rw [if_neg (mt full.mp (by omega)), left, Option.bind_some, if_pos (by unfold maxUnits; omega)]
      congr 1
      omega

theorem Section.lacks_localeIn (section_ : Section) {mark : Char} (reserved : Reserved mark) {context : Context}
    (lacks : context.locale.Lacks mark) : (section_.localeIn context).Lacks mark := by
  unfold localeIn
  cases section_.localeCode with
  | none => exact lacks
  | some code => exact Locale.lacks_ofCode reserved code

/-- A text in which the fill is printed once. -/
theorem Section.exists_finish? {section_ : Section} {index : Nat} {c : Char} (inside : index < maxLiterals)
    (bears : section_.Bears (placeholder index)) (fill : section_.fill = some (index, c)) {body : List Char}
    (once : body.count (placeholder index) = 1) {locale : Locale} (lacks : locale.Lacks (placeholder index))
    (showSign : Bool) (context : Context) :
    ∃ before after, ∀ availableWidth,
      finish? section_ body showSign { context with availableWidth } locale =
        match availableWidth with
        | none => some ⟨before ++ ' ' :: after, section_.color⟩
        | some width => (fillCount? width context.charWidth (Text.units (before ++ after))).map fun count =>
            ⟨before ++ List.replicate count c ++ after, section_.color⟩ := by
  have same (availableWidth : Option Number) :
      applyCurrency section_ body { context with availableWidth } locale = applyCurrency section_ body context locale :=
    rfl
  have placed := bears.count_applyCurrency lacks body context
  rw [once] at placed
  generalize applyCurrency section_ body context locale = applied at same placed
  obtain ⟨text, overrides⟩ := applied
  have signed : (if showSign then '-' :: text else text).count (placeholder index) = 1 := by
    split
    · rwa [List.count_cons_of_ne (bears.reserved.ne rfl).symm]
    · exact placed
  obtain ⟨before, after, restored⟩ := exists_restore inside signed section_.toExtract overrides
  refine ⟨before, after, fun availableWidth => ?_⟩
  unfold finish?
  rw [same, fill]
  cases availableWidth with
  | none => simp [restored]
  | some width =>
    have used : before ++ [] ++ after = before ++ after := by rw [List.append_nil]
    simp only [restored, used]
    cases fillCount? width context.charWidth (Text.units (before ++ after)) with
    | none => rfl
    | some count => simp [restored]

/-- Text is shown alike in every width. -/
theorem Renderer.format_text_width {renderer : Renderer} (reachable : renderer.Reachable) (content : String)
    (format : CellFormat) (options : RenderOptions) (availableWidth : Option Number) :
    (renderer.format (.text content) format { options with availableWidth }).1 =
      (renderer.format (.text content) format options).1 := by
  rw [reachable.format_eq, reachable.format_eq]
  rfl

end Format
end Spreadsheet
