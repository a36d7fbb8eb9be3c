import Spreadsheet.Proofs.Format.Cache
import Spreadsheet.Proofs.Format.Lexing

/-! Text in quotes takes no part in the reading of a code: whatever it holds, the code has the same sections with the same
contents, the same section is picked for a number, and the text comes out of a rendering where the code puts it. Only a
currency, which looks for its symbol among the literals, and a fill, which makes up for their width, look at it. -/
namespace Spreadsheet.Text

theorem mem_trimLeft {text : List Char} {c : Char} (member : c ∈ text) (visible : isBlank c = false) :
    c ∈ trimLeft text := by
  rw [trimLeft]
  rw [← List.takeWhile_append_dropWhile (p := isBlank) (l := text)] at member
  rcases List.mem_append.mp member with blank | rest
  · have white := List.all_eq_true.mp (List.all_takeWhile (l := text) (p := isBlank)) c blank
    simp [visible] at white
  · exact rest

theorem mem_trim {text : List Char} {c : Char} (member : c ∈ text) (visible : isBlank c = false) : c ∈ trim text := by
  rw [trim, List.mem_reverse]
  exact mem_trimLeft (List.mem_reverse.mpr (mem_trimLeft member visible)) visible

end Spreadsheet.Text

namespace Spreadsheet.Format

/-- A text that is made by putting another one between fixed pieces. -/
def Woven (made : List Char → List Char) : Prop :=
  ∃ pieces : List (List Char), ∀ text, made text = text.intercalate pieces

namespace Woven
variable {front back : List Char → List Char}

theorem fixed (piece : List Char) : Woven fun _ => piece := ⟨[piece], fun _ => List.intercalate_singleton.symm⟩

theorem text : Woven fun text => text := ⟨[[], []], fun text => by simp [List.intercalate]⟩

/-- The last piece of the one and the first piece of the other become one piece. -/
theorem exists_intercalate_append (before after : List (List Char)) :
    ∃ first rest, ∀ text : List Char,
      text.intercalate before ++ text.intercalate after = text.intercalate (first :: rest) := by
  induction before with
  | nil =>
    cases after with
    | nil => exact ⟨[], [], fun text => by simp⟩
    | cons first rest => exact ⟨first, rest, fun text => by simp⟩
  | cons piece before ih =>
    cases before with
    | nil =>
      cases after with
      | nil => exact ⟨piece, [], fun text => by simp⟩
      | cons next after =>
        refine ⟨piece ++ next, after, fun text => ?_⟩
        cases after <;> simp
    | cons next before =>
      obtain ⟨first, rest, joined⟩ := ih
      refine ⟨piece, first :: rest, fun text => ?_⟩
      rw [List.intercalate_cons_cons, List.append_assoc, joined, List.intercalate_cons_cons]

theorem append (first : Woven front) (second : Woven back) : Woven fun text => front text ++ back text := by
  obtain ⟨before, first⟩ := first
  obtain ⟨after, second⟩ := second
  obtain ⟨piece, rest, joined⟩ := exists_intercalate_append before after
  exact ⟨piece :: rest, fun text => by simp only [first, second, joined]⟩

theorem flatMap (chars : List Char) {made : Char → List Char → List Char} (woven : ∀ c, Woven (made c)) :
    Woven fun text => chars.flatMap fun c => made c text := by
  induction chars with
  | nil => exact fixed []
  | cons c rest ih =>
    simp only [List.flatMap_cons]
    exact (woven c).append ih

end Woven

/-- Neither a fill nor a bracket that names a currency: these two look at the literals around them. -/
def Lexeme.isIndifferent : Lexeme → Bool
  | .fill _ => false
  | .bracket content true => match Bracket.read content with
    | .currency .. => false
    | _ => true
  | _ => true

namespace Extract

/-- No part of a section looks at its literals. -/
structure Indifferent (extract : Extract) : Prop where
  currency : extract.currency = none
  fill : extract.fill = none

theorem Indifferent.addLexeme {extract : Extract} (indifferent : extract.Indifferent) {lexeme : Lexeme}
    (passes : lexeme.isIndifferent = true) : (extract.addLexeme lexeme).Indifferent := by
  obtain ⟨currency, fill⟩ := indifferent
  cases lexeme with
  | fill c => cases passes
  | bracket content closed =>
    cases closed with
    | false => exact ⟨currency, fill⟩
    | true =>
      simp only [Lexeme.isIndifferent] at passes
      simp only [Extract.addLexeme, addBracket]
      split at passes
      · cases passes
      · split <;> first | exact ⟨currency, fill⟩ | simp_all
  | _ => exact ⟨currency, fill⟩

theorem indifferent_ofLexemes {lexemes : List Lexeme} (pass : ∀ lexeme ∈ lexemes, lexeme.isIndifferent = true) :
    (ofLexemes lexemes).Indifferent := by
  unfold ofLexemes
  generalize start : ({} : Extract) = extract
  have indifferent : extract.Indifferent := start ▸ ⟨rfl, rfl⟩
  clear start
  induction lexemes generalizing extract with
  | nil => exact indifferent
  | cons lexeme rest ih =>
    exact ih (fun other member => pass other (List.mem_cons_of_mem _ member)) _
      (indifferent.addLexeme (pass lexeme List.mem_cons_self))

/-- What a lexeme adds to the literals does not depend on those before it, and nothing else depends on them at all. -/
theorem exists_addLexeme (extract : Extract) (lexeme : Lexeme) :
    ∃ added, ∀ literals, literals.length = extract.literals.length →
      { extract with literals }.addLexeme lexeme =
        { extract.addLexeme lexeme with literals := literals ++ added } := by
  have literal (extract : Extract) (content : List Char) : ∃ added, ∀ literals,
      literals.length = extract.literals.length → { extract with literals }.addLiteral content =
        { extract.addLiteral content with literals := literals ++ added } :=
    ⟨[content], fun literals long => by simp [addLiteral, long]⟩
  have same : ∃ added : List (List Char), ∀ literals, literals.length = extract.literals.length →
      { extract with literals } = { extract with literals := literals ++ added } := ⟨[], fun _ _ => by simp⟩
  cases lexeme with
  | plain c => exact ⟨[], fun literals _ => by simp [addLexeme]⟩
  | quoted content closed => exact literal extract content
  | escaped c => exact literal extract [c]
  | spacer c => exact literal extract [' ']
  | trailing mark => exact same
  | fill c =>
    by_cases filled : extract.fill.isSome = true
    · simpa only [addLexeme, filled, ↓reduceIte] using same
    · refine ⟨[[]], fun literals long => ?_⟩
      simp [addLexeme, filled, addLiteral, long]
  | bracket content closed =>
    cases closed with
    | false => exact literal extract ('[' :: content)
    | true =>
      simp only [addLexeme, addBracket]
      split
      · exact ⟨[], fun literals _ => by simp⟩
      · exact ⟨[], fun literals _ => by simp⟩
      · rename_i symbol code _
        by_cases plain : (symbol.isEmpty || extract.currencyIndex.isSome) = true
        · exact ⟨[], fun literals _ => by simp [addCurrency, plain]⟩
        · exact ⟨[symbol], fun literals long => by simp [addCurrency, plain, addLiteral, long]⟩
      · exact ⟨[], fun literals _ => by simp⟩
      · exact literal extract _

theorem exists_foldl_addLexeme (extract : Extract) (lexemes : List Lexeme) :
    ∃ added, ∀ literals, literals.length = extract.literals.length →
      lexemes.foldl addLexeme { extract with literals } =
        { lexemes.foldl addLexeme extract with literals := literals ++ added } := by
  induction lexemes generalizing extract with
  | nil => exact ⟨[], fun literals _ => by simp⟩
  | cons lexeme rest ih =>
    obtain ⟨first, one⟩ := exists_addLexeme extract lexeme
    obtain ⟨others, more⟩ := ih (extract.addLexeme lexeme)
    have long : (extract.addLexeme lexeme).literals.length = extract.literals.length + first.length := by
      have itself := congrArg (fun extract => extract.literals.length) (one extract.literals rfl)
      simpa using itself
    refine ⟨first ++ others, fun literals same => ?_⟩
    rw [List.foldl_cons, one literals same, more (literals ++ first) (by simp [long, same]), List.append_assoc]
    rfl

end Extract

/-- A section but for a text in quotes: the pieces of its literals and of the way it is written, around the text. -/
structure Draft where
  base : Section
  literals : List (List (List Char))
  source : List (List Char)

namespace Draft

def filled (draft : Draft) (text : List Char) : Section :=
  { draft.base with literals := draft.literals.map text.intercalate, source := text.intercalate draft.source }

/-- A section without the text. -/
def ofSection (section_ : Section) : Draft := ⟨section_, section_.literals.map ([·]), [section_.source]⟩

theorem filled_ofSection (section_ : Section) (text : List Char) : (ofSection section_).filled text = section_ := by
  simp [filled, ofSection, Function.comp_def]

/-- The section of a run of lexemes outside of which the text stands. -/
def ofRun (category : Category) (run : List Lexeme) : Draft := ofSection (Section.ofLexemes category run)

theorem filled_ofRun (category : Category) (run : List Lexeme) (text : List Char) :
    (ofRun category run).filled text = Section.ofLexemes category run := filled_ofSection _ text

/-- The section in which the text stands. -/
theorem exists_filled (category : Category) (start finish : List Lexeme) :
    ∃ draft : Draft, draft.base = Section.ofLexemes category (start ++ .quoted [] true :: finish) ∧
      ∀ text, Section.ofLexemes category (start ++ .quoted text true :: finish) = draft.filled text := by
  obtain ⟨added, rest⟩ :=
    Extract.exists_foldl_addLexeme ((Extract.ofLexemes start).addLiteral []) finish
  have extract (text : List Char) : Extract.ofLexemes (start ++ .quoted text true :: finish) =
      { Extract.ofLexemes (start ++ .quoted [] true :: finish) with
        literals := (Extract.ofLexemes start).literals ++ text :: added } := by
    have filled := rest ((Extract.ofLexemes start).literals ++ [text]) (by simp [Extract.addLiteral])
    simpa [Extract.ofLexemes, Extract.addLexeme, Extract.addLiteral] using filled
  refine ⟨⟨Section.ofLexemes category (start ++ .quoted [] true :: finish),
    (Extract.ofLexemes start).literals.map ([·]) ++ [[], []] :: added.map ([·]),
    [Lexeme.spellAll start ++ ['"'], '"' :: Lexeme.spellAll finish]⟩, rfl, ?_⟩
  intro text
  have source : Lexeme.spellAll (start ++ .quoted text true :: finish) =
      text.intercalate [Lexeme.spellAll start ++ ['"'], '"' :: Lexeme.spellAll finish] := by
    simp [Lexeme.spellAll, Lexeme.spell, List.intercalate]
  have literals : (Extract.ofLexemes start).literals ++ text :: added =
      ((Extract.ofLexemes start).literals.map ([·]) ++ [[], []] :: added.map ([·])).map text.intercalate := by
    simp [Function.comp_def, List.intercalate]
  simp only [Section.ofLexemes, filled, extract text, source, literals]

end Draft

/-- A section without the texts of its literals and without the way it is written. -/
def Section.outline (section_ : Section) : Section :=
  { section_ with literals := section_.literals.map fun _ => [], source := [] }

theorem Draft.outline_filled (draft : Draft) (text : List Char) :
    (draft.filled text).outline = (draft.filled []).outline := by
  simp [Section.outline, Draft.filled, Function.comp_def]

namespace ParsedFormat

/-- A format without the texts of its literals and without the way it is written. -/
def outline (format : ParsedFormat) : ParsedFormat :=
  { code := ""
    sections := format.sections.map Section.outline
    numericCount := format.numericCount
    textSection := format.textSection.map Section.outline }

/-- Sections with their roles. -/
def ofSections (code : String) (sections : List Section) : ParsedFormat :=
  match sections.getLast? with
  | some last =>
    if sections.length = 4 ∨ last.content = .text then ⟨code, sections, sections.length - 1, some last⟩
    else ⟨code, sections, sections.length, none⟩
  | none => ⟨code, sections, 0, none⟩

/-- The roles are the same whatever text the drafts are filled with. -/
theorem exists_ofSections (drafts : List Draft) :
    ∃ numericCount, ∃ textDraft : Option Draft, (∀ draft, textDraft = some draft → draft ∈ drafts) ∧ ∀ code text,
      ofSections code (drafts.map (·.filled text)) =
        ⟨code, drafts.map (·.filled text), numericCount, textDraft.map (·.filled text)⟩ := by
  unfold ofSections
  simp only [List.getLast?_map, List.length_map]
  cases last : drafts.getLast? with
  | none => exact ⟨0, none, by simp, fun code text => rfl⟩
  | some draft =>
    by_cases forText : drafts.length = 4 ∨ draft.base.content = .text
    · refine ⟨drafts.length - 1, some draft, ?_, fun code text => ?_⟩
      · rintro _ ⟨⟩
        exact List.mem_of_getLast? last
      · simp [Draft.filled, forText]
    · exact ⟨drafts.length, none, by simp, fun code text => by simp [Draft.filled, forText]⟩

end ParsedFormat

/-- A code with a text in quotes. -/
def quotedBetween (pre post text : String) : String := pre ++ "\"" ++ text ++ "\"" ++ post

section quoted
variable {pre : String} (outside : Lexeme.Mode.after pre.toList = .outside) (post : String)
include outside

/-- The sections of a code with a text in quotes, as drafts that the text fills. -/
theorem exists_drafts (category : Category) :
    ∃ drafts : List Draft,
      ((∀ lexeme ∈ Lexeme.lex pre.toList ++ Lexeme.lex post.toList, lexeme.isIndifferent = true) →
        ∀ draft ∈ drafts, draft.base.Indifferent) ∧
      ∀ text : String, '"' ∉ text.toList → ParsedFormat.parse (quotedBetween pre post text) category =
        .ofSections (quotedBetween pre post text) (drafts.map (·.filled text.toList)) := by
  obtain ⟨front, start, finish, back, around⟩ :=
    Lexeme.exists_sections (Lexeme.lex pre.toList) (Lexeme.lex post.toList)
  obtain ⟨middle, base, filled⟩ := Draft.exists_filled category start finish
  refine ⟨(front.map (Draft.ofRun category) ++ middle :: back.map (Draft.ofRun category)).take 4, ?_, ?_⟩
  · intro pass draft member
    have runs (run : List Lexeme) (among : run ∈ front ++ (start ++ .quoted [] true :: finish) :: back) :
        (Section.ofLexemes category run).Indifferent := by
      refine Extract.indifferent_ofLexemes fun lexeme inside => ?_
      rw [← around (.quoted [] true) (by simp)] at among
      rcases List.mem_append.mp (Lexeme.mem_of_mem_sections among inside) with before | later
      · exact pass lexeme (List.mem_append_left _ before)
      · rcases List.mem_cons.mp later with same | after
        · exact same ▸ rfl
        · exact pass lexeme (List.mem_append_right _ after)
    rcases List.mem_append.mp (List.mem_of_mem_take member) with before | later
    · obtain ⟨run, among, rfl⟩ := List.mem_map.mp before
      exact runs run (List.mem_append_left _ among)
    · rcases List.mem_cons.mp later with rfl | after
      · rw [base]
        exact runs _ (by simp)
      · obtain ⟨run, among, rfl⟩ := List.mem_map.mp after
        exact runs run (by simp [among])
  · intro text clean
    have chars : (quotedBetween pre post text).toList = pre.toList ++ '"' :: text.toList ++ '"' :: post.toList := by
      simp [quotedBetween]
    have written : (Text.trim (quotedBetween pre post text).toList).isEmpty = false := by
      have quote : '"' ∈ Text.trim (quotedBetween pre post text).toList := Text.mem_trim (by simp [chars]) (by decide)
      simpa using List.ne_nil_of_mem quote
    have runs := around (.quoted text.toList true) (by simp)
    have sections : ((Lexeme.sections (Lexeme.lex (quotedBetween pre post text).toList)).take 4).map
        (Section.ofLexemes category) =
          ((front.map (Draft.ofRun category) ++ middle :: back.map (Draft.ofRun category)).take 4).map
            (·.filled text.toList) := by
      rw [chars, Lexeme.lex_quoted outside clean, runs, List.map_take, List.map_take]
      simp [filled, Draft.filled_ofRun, Function.comp_def]
    simp only [ParsedFormat.parse, written, Bool.false_eq_true, ↓reduceIte, sections]
    rfl

end quoted

/-- The place of the section for a number, by the conditions of all sections, and whether a minus sign shows. -/
def selectPlace (conditions : List (Option Condition)) (n : Number) : Option (Nat × Bool) :=
  let negative := decide (n < 0)
  if conditions.any Option.isSome then
    match conditions.findIdx? (·.any (·.holds n)) with
    | some place => some (place, negative && !conditions[place]?.join.any Condition.onlyNegatives)
    | none => (conditions.findIdx? Option.isNone).map (·, negative)
  else match conditions with
    | [] => none
    | [_] => some (0, negative)
    | [_, _] => some (if negative then 1 else 0, false)
    | _ :: _ :: _ :: _ => some (if decide (0 < n) then 0 else if negative then 1 else 2, false)

/-- Nothing but the conditions of sections decides which of them is picked. -/
theorem selectSection_eq (sections : List Section) (n : Number) :
    selectSection sections n = (selectPlace (sections.map (·.condition)) n).bind fun (place, showSign) =>
      sections[place]?.map (·, showSign) := by
  unfold selectSection selectPlace
  simp only [List.any_map, List.findIdx?_map]
  by_cases conditional : sections.any (·.condition.isSome) = true
  · rw [if_pos conditional, if_pos (by simpa [Function.comp_def] using conditional)]
    rw [List.find?_eq_bind_findIdx?_getElem?, List.find?_eq_bind_findIdx?_getElem?]
    simp only [Function.comp_def]
    cases met : sections.findIdx? (·.condition.any (·.holds n)) with
    | none => cases sections.findIdx? (·.condition.isNone) <;> simp
    | some place =>
      obtain ⟨inside, _⟩ := List.findIdx?_eq_some_iff_getElem.mp met
      simp [inside]
  · rw [if_neg conditional, if_neg (by simpa [Function.comp_def] using conditional)]
    match sections with
    | [] => rfl
    | [_] => rfl
    | [_, _] => by_cases negative : n < 0 <;> simp [negative]
    | _ :: _ :: _ :: _ =>
      by_cases positive : 0 < n
      · simp [positive]
      · by_cases negative : n < 0 <;> simp [positive, negative]

/-- A rendering, if there is one, that is made by putting a text between fixed pieces. -/
def WovenInto (made : List Char → Option Rendered) : Prop :=
  ∃ result : Option (List (List Char) × Option String), ∀ text,
    made text = result.map fun (pieces, color) => ⟨text.intercalate pieces, color⟩

theorem WovenInto.nothing : WovenInto fun _ => none := ⟨none, fun _ => rfl⟩

theorem Woven.into {made : List Char → List Char} (woven : Woven made) (color : Option String) :
    WovenInto fun text => some ⟨made text, color⟩ := by
  obtain ⟨pieces, woven⟩ := woven
  exact ⟨some (pieces, color), fun text => by simp [woven]⟩

namespace Draft
variable {draft : Draft}

/-- Where the literals of a draft are put back, so is the text, as often as its place comes up. -/
theorem woven_restore (draft : Draft) (body : List Char) :
    Woven fun text => Section.restore (draft.filled text).toExtract [] body := by
  refine Woven.flatMap body fun c => ?_
  cases placeholderIndex? c with
  | none => exact .fixed [c]
  | some index =>
    simp only [List.lookup_nil, Option.none_or, filled, List.getElem?_map]
    cases draft.literals[index]? with
    | none => exact .fixed []
    | some pieces => exact ⟨pieces, fun text => rfl⟩

theorem wovenInto_finish? (indifferent : draft.base.Indifferent) (body : Option (List Char)) (showSign : Bool)
    (context : Context) (locale : Locale) :
    WovenInto fun text => body.bind fun body => finish? (draft.filled text) body showSign context locale := by
  cases body with
  | none => exact .nothing
  | some body =>
    have finished (text : List Char) : finish? (draft.filled text) body showSign context locale =
        some ⟨Section.restore (draft.filled text).toExtract [] (if showSign then '-' :: body else body),
          draft.base.color⟩ := by
      have currency : (draft.filled text).currency = none := indifferent.currency
      have fill : (draft.filled text).fill = none := indifferent.fill
      simp only [finish?, applyCurrency, currency, fill]
      rfl
    simp only [Option.bind_some, finished]
    exact (woven_restore draft _).into _

theorem woven_renderText (draft : Draft) (content : String) :
    Woven fun text => (renderText content (draft.filled text)).text := by
  refine Woven.flatMap draft.base.body fun c => ?_
  by_cases sign : c = '@'
  · simpa only [sign, ↓reduceIte] using Woven.fixed content.toList
  · simpa only [sign, ↓reduceIte] using woven_restore draft [c]

end Draft

section rendering
variable {drafts : List Draft}

/-- The same draft is picked for a number, whatever text it is filled with. -/
theorem exists_selected (drafts : List Draft) (n : Number) :
    ∃ chosen : Option (Draft × Bool), (∀ draft showSign, chosen = some (draft, showSign) → draft ∈ drafts) ∧
      ∀ text, selectSection (drafts.map (·.filled text)) n =
        chosen.map fun (draft, showSign) => (draft.filled text, showSign) := by
  have conditions (text : List Char) :
      (drafts.map (·.filled text)).map (·.condition) = drafts.map (·.base.condition) := by
    simp [Draft.filled, Function.comp_def]
  simp only [selectSection_eq, conditions, List.getElem?_map]
  cases selectPlace (drafts.map (·.base.condition)) n with
  | none => exact ⟨none, by simp, fun text => rfl⟩
  | some selected =>
    obtain ⟨place, showSign⟩ := selected
    cases picked : drafts[place]? with
    | none => exact ⟨none, by simp, fun text => by simp [picked]⟩
    | some draft =>
      refine ⟨some (draft, showSign), ?_, fun text => by simp [picked]⟩
      rintro _ _ ⟨⟩
      exact List.mem_of_getElem? picked

variable (indifferent : ∀ draft ∈ drafts, draft.base.Indifferent)
include indifferent

/-- A number under a code with a text in quotes: the section that is picked is filled in as it is for any other text. -/
theorem wovenInto_renderNumber? (code : List Char → String) (numericCount : Nat) (textDraft : Option Draft) (n : Number)
    (value : CellValue) (context : Context) :
    WovenInto fun text => renderNumber? n value
      ⟨code text, drafts.map (·.filled text), numericCount, textDraft.map (·.filled text)⟩ context := by
  obtain ⟨chosen, among, selected⟩ := exists_selected (drafts.take numericCount) n
  have plain : WovenInto fun _ => some ⟨plainText value context.locale, none⟩ := (Woven.fixed _).into none
  unfold renderNumber?
  simp only [ParsedFormat.numericSections, ← List.map_take, selected]
  cases n.isFinite with
  | false => exact plain
  | true =>
    cases chosen with
    | none => exact plain
    | some pair =>
      obtain ⟨draft, showSign⟩ := pair
      have member := List.mem_of_mem_take (among draft showSign rfl)
      have finishes := Draft.wovenInto_finish? (indifferent draft member)
      simp only [↓reduceIte, Option.map_some, Draft.filled]
      cases draft.base.content with
      | general => exact finishes (some _) _ _ _
      | text => exact finishes (some _) _ _ _
      | literal => exact finishes (some _) _ _ _
      | digits pattern => exact finishes _ _ _ _
      | dateTime tokens =>
        by_cases elapsed : (tokens.any DateToken.isElapsed || context.category = .duration) = true
        · simp only [elapsed, ↓reduceIte]
          exact finishes (some _) _ _ _
        · simp only [elapsed, Bool.false_eq_true, ↓reduceIte]
          exact finishes _ _ _ _

theorem wovenInto_render? (code : List Char → String) (numericCount : Nat) (textDraft : Option Draft) (value : CellValue)
    (context : Context) :
    WovenInto fun text => render? value
      ⟨code text, drafts.map (·.filled text), numericCount, textDraft.map (·.filled text)⟩ context := by
  have number (n : Number) := wovenInto_renderNumber? indifferent code numericCount textDraft n value context
  cases value with
  | boolean _ | error _ | formula _ => exact (Woven.fixed _).into none
  | number n => exact number n
  | date instant => exact number _
  | duration ms => exact number _
  | text content =>
    cases textDraft with
    | none => exact (Woven.fixed _).into none
    | some draft => exact (draft.woven_renderText content).into draft.base.color

end rendering

/-- Text in quotes is inert. Whatever it holds, the code has the same sections with the same contents, the same section
is picked for each number, and a value shows as a fixed text with the quoted one put between its pieces, in a colour that
does not depend on it. -/
theorem Renderer.format_quoted {pre post : String} (outside : Lexeme.Mode.after pre.toList = .outside)
    (indifferent : ∀ lexeme ∈ Lexeme.lex pre.toList ++ Lexeme.lex post.toList, lexeme.isIndifferent = true)
    (category : Category) :
    (∃ outline : ParsedFormat, ∀ text : String, '"' ∉ text.toList →
      (ParsedFormat.parse (quotedBetween pre post text) category).outline = outline) ∧
    (∃ selected : Number → Option (Nat × Bool), ∀ text : String, '"' ∉ text.toList → ∀ n,
      selectSection (ParsedFormat.parse (quotedBetween pre post text) category).numericSections n =
        (selected n).bind fun (place, showSign) =>
          (ParsedFormat.parse (quotedBetween pre post text) category).numericSections[place]?.map (·, showSign)) ∧
    ∀ (value : CellValue) (options : RenderOptions) (locale : Locale),
      ∃ (pieces : List (List Char)) (color : Option String), ∀ text : String, '"' ∉ text.toList →
        ∀ renderer : Renderer, renderer.Reachable → renderer.locale = locale →
          (renderer.format value ⟨category, quotedBetween pre post text⟩ options).1 =
            ⟨text.toList.intercalate pieces, color⟩ := by
  obtain ⟨drafts, pass, parsed⟩ := exists_drafts outside post category
  obtain ⟨numericCount, textDraft, _, roles⟩ := ParsedFormat.exists_ofSections drafts
  have format (text : String) (clean : '"' ∉ text.toList) := (parsed text clean).trans (roles _ text.toList)
  refine ⟨?_, ?_, ?_⟩
  · refine ⟨(ParsedFormat.mk "" (drafts.map (·.filled [])) numericCount (textDraft.map (·.filled []))).outline, ?_⟩
    intro text clean
    rw [format text clean]
    simp [ParsedFormat.outline, Draft.outline_filled _ text.toList, Function.comp_def]
  · refine ⟨selectPlace ((drafts.take numericCount).map (·.base.condition)), ?_⟩
    intro text clean n
    rw [selectSection_eq, format text clean]
    simp [ParsedFormat.numericSections, ← List.map_take, Draft.filled, Function.comp_def]
  · intro value options locale
    obtain ⟨result, woven⟩ := wovenInto_render? (pass indifferent)
      (fun text => quotedBetween pre post (String.ofList text)) numericCount textDraft value
      { category, locale := options.locale.getD locale, availableWidth := options.availableWidth
        charWidth := options.charWidth.getD defaultCharWidth }
    have rendered (text : String) (clean : '"' ∉ text.toList) (renderer : Renderer) (reachable : renderer.Reachable)
        (same : renderer.locale = locale) :
        (renderer.format value ⟨category, quotedBetween pre post text⟩ options).1 =
          (result.map fun (pieces, color) => Rendered.mk (text.toList.intercalate pieces) color).getD
            ⟨value.display.toList, none⟩ := by
      have filled := woven text.toList
      simp only [String.ofList_toList] at filled
      rw [← format text clean] at filled
      rw [reachable.faithful.format_eq, ← filled, same]
    cases result with
    | none =>
      refine ⟨[value.display.toList], none, fun text clean renderer reachable same => ?_⟩
      rw [rendered text clean renderer reachable same]
      simp
    | some found => exact ⟨found.1, found.2, rendered⟩

/-- Letters of dates, placeholders, brackets and semicolons in quotes, in the middle of a code with two sections. -/
theorem Renderer.format_quoted_between_sections :
    (Lexeme.Mode.after "[Blue]0.0 ".toList = .outside ∧
      ∀ lexeme ∈ Lexeme.lex "[Blue]0.0 ".toList ++ Lexeme.lex "_);General".toList, lexeme.isIndifferent = true) ∧
    ∃ (pieces : List (List Char)) (color : Option String), ∀ text ∈ ["", "yyyy;[h]#@", "\uE001General"],
      ((new .enUs).format (.number 5) ⟨.number, quotedBetween "[Blue]0.0 " "_);General" text⟩ {}).1 =
        ⟨text.toList.intercalate pieces, color⟩ := by
  have outside : Lexeme.Mode.after "[Blue]0.0 ".toList = .outside := rfl
  have indifferent : ∀ lexeme ∈ Lexeme.lex "[Blue]0.0 ".toList ++ Lexeme.lex "_);General".toList,
      lexeme.isIndifferent = true := by decide +kernel
  obtain ⟨pieces, color, shown⟩ := (Renderer.format_quoted outside indifferent .number).2.2 (.number 5) {} .enUs
  refine ⟨⟨outside, indifferent⟩, pieces, color, fun text member => ?_⟩
  have clean : ∀ text ∈ ["", "yyyy;[h]#@", "\uE001General"], '"' ∉ text.toList := by decide
  exact shown text (clean text member) (new .enUs) ⟨.enUs, [], rfl⟩ rfl

end Spreadsheet.Format
