import Spreadsheet.Proofs.Format.Elapsed
import Spreadsheet.Proofs.Number.Magnitude

/-! Signs. But for dates and times of day, a number shows as its magnitude does in the section that is picked for it,
and a minus sign stands before it where the section serves numbers of both signs. So a section of a code with several of
them shows what it shows as a code of its own, and opposite numbers in one section differ by the minus sign alone. -/
namespace Spreadsheet

/-- The code of a format, read in its category. -/
def CellFormat.parsed (format : CellFormat) : Format.ParsedFormat := .parse format.code format.category

namespace Format

/-- What a rendering depends on beside value and code. -/
def RenderOptions.context (options : RenderOptions) (category : Category) (locale : Locale) : Context where
  category
  locale := options.locale.getD locale
  availableWidth := options.availableWidth
  charWidth := options.charWidth.getD defaultCharWidth

/-- A value as a renderer shows it, if it does not have to show it as it would without a format. -/
def Renderer.rendered? (renderer : Renderer) (value : CellValue) (format : CellFormat) (options : RenderOptions) :
    Option Rendered := render? value format.parsed (options.context format.category renderer.locale)

theorem Renderer.Reachable.format_eq {renderer : Renderer} (reachable : renderer.Reachable) (value : CellValue)
    (format : CellFormat) (options : RenderOptions) :
    (renderer.format value format options).1 =
      (renderer.rendered? value format options).getD ⟨value.display.toList, none⟩ :=
  reachable.faithful.format_eq value format options

/-- A condition that is known to be met by negative numbers alone is met by no positive one. -/
theorem Condition.not_holds_of_onlyNegatives {condition : Condition} (only : condition.onlyNegatives = true)
    {n : Number} (finite : n.isFinite = true) (positive : 0 < n) : condition.holds n = false := by
  obtain ⟨a, units⟩ := Number.isFinite_iff.mp finite
  rw [Number.pos_iff_units units] at positive
  obtain ⟨comparison, bound⟩ := condition
  cases known : bound.units? with
  | none =>
    cases n with
    | finite negative s e canonical =>
      cases bound with
      | nan => cases comparison <;> first | rfl | cases only
      | infinite below => cases below <;> cases comparison <;> first | rfl | cases only
      | finite negative s e canonical => cases known
    | _ => cases finite
  | some b =>
    cases comparison with
    | less =>
      simp only [onlyNegatives, decide_eq_true_eq, Number.le_iff_units known Number.zero_units] at only
      simp only [holds, decide_eq_false_iff_not, Number.lt_iff_units units known]
      omega
    | atMost =>
      simp only [onlyNegatives, decide_eq_true_eq, Number.neg_iff_units known] at only
      simp only [holds, decide_eq_false_iff_not, Number.le_iff_units units known]
      omega
    | equal =>
      simp only [onlyNegatives, decide_eq_true_eq, Number.neg_iff_units known] at only
      rw [← Bool.not_eq_true, holds, Number.same_iff_units units known]
      omega
    | _ => cases only

namespace Section

/-- The locale that a bracket of the section names, or that of the rendering. -/
def localeIn (section_ : Section) (context : Context) : Locale :=
  (section_.localeCode.map Locale.ofCode).getD context.locale

/-- A magnitude in a section that shows no date and no time of day, before its currency, sign and literals are put in
place. -/
def magnitudeText? (section_ : Section) (magnitude : Number) (context : Context) : Option (List Char) :=
  let locale := section_.localeIn context
  match section_.content with
  | .general =>
    some (match Text.splitAtIgnoringCase "general".toList section_.body with
      | some (before, after) => before ++ generalText magnitude locale ++ after
      | none => section_.body)
  | .text => some (replaceTextSigns section_.body (generalText magnitude locale))
  | .dateTime tokens => some (elapsedText tokens (magnitude * .ofNat msPerDay).round locale)
  | .digits pattern => patternText? magnitude pattern locale context.category
  | .literal => some section_.body

/-- A section that shows no date and no time of day: if it has tokens, some are for elapsed time. -/
def isTimeless (section_ : Section) : Bool :=
  match section_.content with
  | .dateTime _ => section_.elapsed
  | _ => true

variable {section_ : Section}

/-- A minus sign stands before everything else where no fill has to make room for it. -/
theorem finish?_sign (unfilled : section_.fill = none) (body : List Char) (context : Context) (locale : Locale) :
    finish? section_ body true context locale =
      (finish? section_ body false context locale).map fun shown => { shown with text := '-' :: shown.text } := by
  simp [finish?, unfilled, Section.restore, placeholderIndex?]

end Section

section selected
variable {format : ParsedFormat} {section_ : Section} {n m : Number} {showSign : Bool}

theorem mem_of_selectSection {sections : List Section}
    (selected : selectSection sections n = some (section_, showSign)) : section_ ∈ sections := by
  rw [selectSection_eq] at selected
  obtain ⟨⟨place, sign⟩, _, selected⟩ := Option.bind_eq_some_iff.mp selected
  obtain ⟨found, picked, same⟩ := Option.map_eq_some_iff.mp selected
  cases same
  exact List.mem_of_getElem? picked

/-- The section that is picked shows the magnitude of the number, with a sign or without one. -/
theorem renderNumber?_of_selected (finite : n.isFinite = true)
    (selected : selectSection format.numericSections n = some (section_, showSign))
    (elapsed : ∀ tokens, section_.content = .dateTime tokens → tokens.any DateToken.isElapsed = true)
    (context : Context) :
    render? (.number n) format context =
      (section_.magnitudeText? n.abs context).bind fun body =>
        finish? section_ body showSign context (section_.localeIn context) := by
  simp only [render?, renderNumber?, finite, ↓reduceIte, selected, Section.magnitudeText?]
  cases content : section_.content with
  | general =>
    simp only [CellValue.isNumber, Bool.and_true, ↓reduceIte, Option.bind_some]
    rfl
  | text => rfl
  | dateTime tokens => simp [elapsed tokens content, elapsedMs, Section.localeIn]
  | digits pattern => rfl
  | literal => rfl

/-- A section of a code is read as it is written. -/
theorem ParsedFormat.eq_of_mem {code : String} {category : Category}
    (among : section_ ∈ (ParsedFormat.parse code category).numericSections) :
    section_.source ∈ splitSections (written code) ∧
      section_ = Section.ofLexemes category (Lexeme.lex section_.source) := by
  have member := List.mem_of_mem_take among
  rw [parse_eq, sections_ofSections] at member
  obtain ⟨source, split, rfl⟩ := List.mem_map.mp member
  have same : (Section.ofLexemes category (Lexeme.lex source)).source = source := Lexeme.spellAll_lex source
  rw [same]
  exact ⟨List.mem_of_mem_take split, rfl⟩

theorem Section.any_isElapsed_of_isTimeless (timeless : section_.isTimeless = true) {code : String}
    {category : Category} (among : section_ ∈ (ParsedFormat.parse code category).numericSections)
    (tokens : List DateToken) (content : section_.content = .dateTime tokens) :
    tokens.any DateToken.isElapsed = true := by
  obtain ⟨_, read⟩ := ParsedFormat.eq_of_mem among
  have elapsed : section_.elapsed = true := by simpa [isTimeless, content] using timeless
  rw [read] at elapsed content
  exact Section.any_isElapsed content elapsed

/-- The source of a section is a code of that section alone. -/
theorem ParsedFormat.numericSections_source {code : String} {category : Category}
    (among : section_ ∈ (ParsedFormat.parse code category).numericSections)
    (written : (Text.trim section_.source).isEmpty = false) (content : section_.content ≠ .text) :
    (ParsedFormat.parse (String.ofList section_.source) category).numericSections = [section_] := by
  obtain ⟨split, read⟩ := eq_of_mem among
  have source : ParsedFormat.written (String.ofList section_.source) = section_.source := by
    simp [ParsedFormat.written, written]
  rw [parse_eq, source, splitSections_of_mem split, List.take_of_length_le (by simp), List.map_singleton, ← read]
  simp [ofSections, content, numericSections]

end selected

/-- The place of the section for a number among two or three that have no conditions. -/
def signPlace (count : Nat) (n : Number) : Nat :=
  if 0 < n then 0 else if n < 0 then 1 else if count = 2 then 0 else 2

theorem selectPlace_replicate {count : Nat} (several : count = 2 ∨ count = 3) (n : Number) :
    selectPlace (List.replicate count none) n = some (signPlace count n, false) := by
  rcases several with rfl | rfl
  · by_cases above : 0 < n
    · simp [selectPlace, signPlace, List.replicate, above, Number.not_neg_of_pos above]
    · simp [selectPlace, signPlace, List.replicate, above]
  · simp [selectPlace, signPlace, List.replicate]

/-- Among two or three sections without conditions, the sign alone decides, and none shows a minus sign. -/
theorem selectSection_of_unconditional {sections : List Section} {section_ : Section} {n : Number}
    (several : sections.length = 2 ∨ sections.length = 3)
    (unconditional : ∀ section_ ∈ sections, section_.condition = none)
    (chosen : sections[signPlace sections.length n]? = some section_) :
    selectSection sections n = some (section_, false) := by
  have conditions : sections.map (·.condition) = List.replicate sections.length none :=
    List.eq_replicate_iff.mpr ⟨List.length_map _, by simpa using unconditional⟩
  rw [selectSection_eq, conditions, selectPlace_replicate several, Option.bind_some]
  simp [chosen]

theorem selectSection_abs (n : Number) {section_ : Section} (unconditional : section_.condition = none) :
    selectSection [section_] n.abs = some (section_, false) := by
  simp [selectSection, unconditional, Number.not_abs_neg]

/-- A number under a code of two or three sections without conditions shows as its magnitude does under the section for
its sign alone, if that is a section of digits, of literals, of `General` or of elapsed time. -/
theorem Renderer.format_section {renderer : Renderer} (reachable : renderer.Reachable) {format : CellFormat}
    (several : format.parsed.numericSections.length = 2 ∨ format.parsed.numericSections.length = 3)
    (unconditional : ∀ section_ ∈ format.parsed.numericSections, section_.condition = none)
    {n : Number} (finite : n.isFinite = true) {section_ : Section}
    (chosen : format.parsed.numericSections[signPlace format.parsed.numericSections.length n]? = some section_)
    (written : (Text.trim section_.source).isEmpty = false) (content : section_.content ≠ .text)
    (timeless : section_.isTimeless = true) {options : RenderOptions}
    (rendered : (renderer.rendered? (.number n) format options).isSome = true) :
    (renderer.format (.number n) format options).1 =
      (renderer.format (.number n.abs) ⟨format.category, String.ofList section_.source⟩ options).1 := by
  have among : section_ ∈ format.parsed.numericSections := List.mem_of_getElem? chosen
  have elapsed := Section.any_isElapsed_of_isTimeless timeless among
  have whole := selectSection_of_unconditional several unconditional chosen
  have alone : (CellFormat.parsed ⟨format.category, String.ofList section_.source⟩).numericSections = [section_] :=
    ParsedFormat.numericSections_source among written content
  have magnitude := selectSection_abs n (unconditional section_ among)
  rw [← alone] at magnitude
  have same : renderer.rendered? (.number n) format options =
      renderer.rendered? (.number n.abs) ⟨format.category, String.ofList section_.source⟩ options := by
    rw [rendered?, rendered?, renderNumber?_of_selected finite whole elapsed,
      renderNumber?_of_selected (by simpa using finite) magnitude elapsed, Number.abs_abs]
  obtain ⟨shown, some⟩ := Option.isSome_iff_exists.mp rendered
  rw [reachable.format_eq, reachable.format_eq, ← same, some]
  rfl

/-- A negative amount in brackets of its own, where a fill makes up for the width that is left. -/
theorem Renderer.format_section_accounting :
    let format : CellFormat := ⟨.accounting, "_(\"$\"* #,##0.00_);_(\"$\"* \\(#,##0.00\\);_(\"$\"* \"-\"??_);_(@_)"⟩
    let options : RenderOptions := { availableWidth := some 140 }
    let n : Number := .ofInt (-1234)
    (format.parsed.numericSections.length = 3 ∧ signPlace 3 n = 1 ∧
      ((new .enUs).rendered? (.number n) format options).isSome = true) ∧
    ((new .enUs).format (.number n) format options).1 =
      ((new .enUs).format (.number n.abs) ⟨.accounting, "_(\"$\"* \\(#,##0.00\\)"⟩ options).1 := by
  intro format options n
  have count : format.parsed.numericSections.length = 3 := by decide +kernel
  have place : signPlace 3 n = 1 := by decide +kernel
  have rendered : ((new .enUs).rendered? (.number n) format options).isSome = true := by decide +kernel
  have unconditional : ∀ section_ ∈ format.parsed.numericSections, section_.condition = none := by decide +kernel
  have digits : ∀ section_ ∈ format.parsed.numericSections, (Text.trim section_.source).isEmpty = false ∧
      section_.content ≠ .text ∧ section_.isTimeless = true := by decide +kernel
  have source : format.parsed.numericSections[1]?.map (·.source) = some "_(\"$\"* \\(#,##0.00\\)".toList := by
    decide +kernel
  obtain ⟨section_, chosen, source⟩ := Option.map_eq_some_iff.mp source
  obtain ⟨written, content, timeless⟩ := digits section_ (List.mem_of_getElem? chosen)
  have shown := Renderer.format_section ⟨.enUs, [], rfl⟩ (.inr count) unconditional (n := n) rfl
    (by rw [count, place, chosen]) written content timeless rendered
  rw [source, String.ofList_toList] at shown
  exact ⟨⟨count, place, rendered⟩, shown⟩

/-- How a section comes to be picked, and what becomes of the sign: by its condition, for want of one, or by its place
among several that have none. -/
theorem selectSection_cases {sections : List Section} {section_ : Section} {n : Number} {showSign : Bool}
    (selected : selectSection sections n = some (section_, showSign)) :
    (section_.condition.any (·.holds n) = true ∧
      showSign = (decide (n < 0) && !section_.condition.any Condition.onlyNegatives)) ∨
    (section_.condition = none ∧ showSign = decide (n < 0)) ∨
    (sections.length ≠ 1 ∧ sections.any (·.condition.isSome) = false ∧ showSign = false) := by
  unfold selectSection at selected
  dsimp only at selected
  by_cases conditional : sections.any (·.condition.isSome) = true
  · rw [if_pos conditional] at selected
    split at selected
    · rename_i chosen met
      cases selected
      exact .inl ⟨List.find?_some (p := fun section_ : Section => section_.condition.any (·.holds n)) met, rfl⟩
    · obtain ⟨fallback, found, same⟩ := Option.map_eq_some_iff.mp selected
      cases same
      exact .inr (.inl ⟨by simpa using List.find?_some found, rfl⟩)
  · rw [if_neg conditional] at selected
    have none := Bool.eq_false_iff.mpr conditional
    split at selected
    · cases selected
    · cases selected
      exact .inr (.inl ⟨by simpa using none, rfl⟩)
    · cases selected
      exact .inr (.inr ⟨by simp, none, rfl⟩)
    · cases selected
      exact .inr (.inr ⟨by simp, none, rfl⟩)

/-- A section that serves numbers of both signs, alone or by conditions, shows a minus sign for a negative number, and
none for a positive one. -/
theorem selectSection_of_both {sections : List Section} {section_ : Section} {n m : Number} (finite : m.isFinite = true)
    (negative : n < 0) (positive : 0 < m) (serves : sections.length = 1 ∨ sections.any (·.condition.isSome) = true)
    (first : (selectSection sections n).map Prod.fst = some section_)
    (second : (selectSection sections m).map Prod.fst = some section_) :
    selectSection sections n = some (section_, true) ∧ selectSection sections m = some (section_, false) := by
  obtain ⟨⟨chosen, shows⟩, picked, rfl⟩ := Option.map_eq_some_iff.mp first
  obtain ⟨⟨_, hides⟩, alike, same⟩ := Option.map_eq_some_iff.mp second
  cases same
  have notNegative : ¬m < 0 := Number.not_neg_of_pos positive
  have hidden : hides = false := by
    rcases selectSection_cases alike with ⟨_, sign⟩ | ⟨_, sign⟩ | ⟨_, _, sign⟩ <;> simp [sign, notNegative]
  -- The positive number has been picked for by the same condition, if there is one.
  have mixed : chosen.condition.any Condition.onlyNegatives = false := by
    rcases selectSection_cases alike with ⟨meets, _⟩ | ⟨none, _⟩ | ⟨several, none, _⟩
    · obtain ⟨condition, here, meets⟩ := (Option.any_eq_true _ _).mp meets
      rw [here, Option.any_some, ← Bool.not_eq_true]
      intro only
      simp [Condition.not_holds_of_onlyNegatives only finite positive] at meets
    · simp [none]
    · exact (serves.elim several (by simp [none])).elim
  have shown : shows = true := by
    rcases selectSection_cases picked with ⟨_, sign⟩ | ⟨_, sign⟩ | ⟨several, none, _⟩
    · simp [sign, negative, mixed]
    · simp [sign, negative]
    · exact (serves.elim several (by simp [none])).elim
  rw [picked, alike, hidden, shown]
  exact ⟨rfl, rfl⟩

theorem Extract.fill_addLexeme (extract : Extract) {lexeme : Lexeme} (other : ∀ c, lexeme ≠ .fill c) :
    (extract.addLexeme lexeme).fill = extract.fill := by
  cases lexeme with
  | fill c => exact absurd rfl (other c)
  | bracket content closed =>
    cases closed with
    | false => rfl
    | true =>
      simp only [Extract.addLexeme, addBracket]
      split
      · rfl
      · rfl
      · simp only [addCurrency]
        split <;> rfl
      · rfl
      · rfl
  | _ => rfl

theorem Extract.fill_ofLexemes {lexemes : List Lexeme} (unfilled : ∀ c, .fill c ∉ lexemes) :
    (ofLexemes lexemes).fill = none := by
  unfold ofLexemes
  refine List.foldlRecOn lexemes addLexeme (motive := fun extract : Extract => extract.fill = none) rfl ?_
  intro extract none lexeme member
  rwa [fill_addLexeme]
  rintro c rfl
  exact unfilled c member

/-- No section of a code without fills has one. -/
theorem ParsedFormat.fill_eq_none {code : String} {category : Category} {section_ : Section}
    (among : section_ ∈ (ParsedFormat.parse code category).numericSections)
    (unfilled : ∀ c, .fill c ∉ Lexeme.lex code.toList) : section_.fill = none := by
  obtain ⟨split, read⟩ := eq_of_mem among
  rw [read]
  refine Extract.fill_ofLexemes fun c member => ?_
  have whole : .fill c ∈ Lexeme.lex (written code) := by
    refine Lexeme.mem_of_mem_sections ?_ member
    rw [sections_lex]
    exact List.mem_map_of_mem split
  unfold written at whole
  split at whole
  · have general : ∀ c, .fill c ∉ Lexeme.lex "General".toList := by simp [Lexeme.lex, Lexeme.lexFrom, Lexeme.isMark]
    exact general c whole
  · exact unfilled c whole

/-- Opposite numbers that one section shows, be it the only one, one that is picked by its condition or the one without
a condition, show alike but for a minus sign before the negative one. Fills, dates and times of day are left aside. -/
theorem Renderer.format_opposite {renderer : Renderer} (reachable : renderer.Reachable) {format : CellFormat}
    (unfilled : ∀ c, .fill c ∉ Lexeme.lex format.code.toList) {n m : Number} (finite : m.isFinite = true)
    (negative : n < 0) (positive : 0 < m) (opposite : n.abs = m.abs) {section_ : Section}
    (first : (selectSection format.parsed.numericSections n).map Prod.fst = some section_)
    (second : (selectSection format.parsed.numericSections m).map Prod.fst = some section_)
    (serves : format.parsed.numericSections.length = 1 ∨
      format.parsed.numericSections.any (·.condition.isSome) = true)
    (timeless : section_.isTimeless = true) {options : RenderOptions}
    (rendered : (renderer.rendered? (.number n) format options).isSome = true ∧
      (renderer.rendered? (.number m) format options).isSome = true) :
    (renderer.format (.number n) format options).1.text =
      '-' :: (renderer.format (.number m) format options).1.text ∧
    (renderer.format (.number n) format options).1.color = (renderer.format (.number m) format options).1.color := by
  obtain ⟨shows, hides⟩ := selectSection_of_both finite negative positive serves first second
  have among : section_ ∈ format.parsed.numericSections := mem_of_selectSection hides
  have elapsed := Section.any_isElapsed_of_isTimeless timeless among
  have alsoFinite : n.isFinite = true := by rw [← Number.isFinite_abs, opposite, Number.isFinite_abs, finite]
  obtain ⟨shown, found⟩ := Option.isSome_iff_exists.mp rendered.2
  have signed : renderer.rendered? (.number n) format options = some { shown with text := '-' :: shown.text } := by
    rw [rendered?, renderNumber?_of_selected finite hides elapsed] at found
    rw [rendered?, renderNumber?_of_selected alsoFinite shows elapsed, opposite]
    obtain ⟨body, magnitude, finished⟩ := Option.bind_eq_some_iff.mp found
    rw [magnitude, Option.bind_some, Section.finish?_sign (ParsedFormat.fill_eq_none among unfilled), finished]
    rfl
  rw [reachable.format_eq, reachable.format_eq, signed, found]
  exact ⟨rfl, rfl⟩

/-- Two numbers that meet a condition which numbers of both signs can meet. -/
theorem Renderer.format_opposite_conditional :
    let format : CellFormat := ⟨.currency, "[Red][<10]0.0 [$€-407];General"⟩
    (((Number.ofInt (-5)) < 0 ∧ (0 : Number) < 5 ∧ (Number.ofInt (-5)).abs = Number.abs 5) ∧
      format.parsed.numericSections.any (·.condition.isSome) = true) ∧
    ((new .enUs).format (.number (.ofInt (-5))) format {}).1.text =
      '-' :: ((new .enUs).format (.number 5) format {}).1.text ∧
    ((new .enUs).format (.number (.ofInt (-5))) format {}).1.color =
      ((new .enUs).format (.number 5) format {}).1.color := by
  intro format
  have negative : Number.ofInt (-5) < 0 := by decide +kernel
  have positive : (0 : Number) < 5 := by decide +kernel
  have opposite : (Number.ofInt (-5)).abs = Number.abs 5 := by decide +kernel
  have serves : format.parsed.numericSections.any (·.condition.isSome) = true := by decide +kernel
  have others : ∀ lexeme ∈ Lexeme.lex format.code.toList,
      (match lexeme with | .fill _ => false | _ => true) = true := by decide +kernel
  have unfilled (c : Char) : .fill c ∉ Lexeme.lex format.code.toList := fun member => nomatch others _ member
  have rendered : ((new .enUs).rendered? (.number (.ofInt (-5))) format {}).isSome = true ∧
      ((new .enUs).rendered? (.number 5) format {}).isSome = true := by decide +kernel
  have exists_first : (format.parsed.numericSections[0]?.any (·.isTimeless)) = true := by decide +kernel
  obtain ⟨section_, first, timeless⟩ := (Option.any_eq_true _ _).mp exists_first
  have picked (n : Number) (showSign : Bool)
      (place : selectPlace (format.parsed.numericSections.map (·.condition)) n = some (0, showSign)) :
      (selectSection format.parsed.numericSections n).map Prod.fst = some section_ := by
    rw [selectSection_eq, place, Option.bind_some]
    simp [first]
  have below := picked (.ofInt (-5)) true (by decide +kernel)
  have above := picked 5 false (by decide +kernel)
  exact ⟨⟨⟨negative, positive, opposite⟩, serves⟩, Renderer.format_opposite ⟨.enUs, [], rfl⟩ unfilled rfl negative
    positive opposite below above (.inr serves) timeless rendered⟩

end Format
end Spreadsheet
