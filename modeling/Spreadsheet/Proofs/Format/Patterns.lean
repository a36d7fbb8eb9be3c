import Mathlib.Data.Bool.AllAny
import Spreadsheet.Proofs.Format.Durations
import Spreadsheet.Proofs.Number.Exactness

/-! Codes that are one digit pattern and nothing else: no character of theirs opens a bracket, is a mark or a letter, so
that the whole code is the body of one section, and a number shows as the pattern is filled. -/
namespace Spreadsheet

namespace Text

/-- A word does not stand in a text that lacks one of its letters. -/
theorem splitAtIgnoringCase_eq_none {text : List Char} (word : List Char) (letter : Char) (among : letter ∈ word.map Char.toLower)
    (missing : ∀ c ∈ text, c.toLower ≠ letter) : splitAtIgnoringCase word text = none := by
  induction text with
  | nil =>
    cases word with
    | nil => cases among
    | cons first word => rfl
  | cons c rest ih =>
    have starts : startsIgnoringCase word (c :: rest) = false := by
      rw [startsIgnoringCase, beq_eq_false_iff_ne]
      intro same
      rw [← same] at among
      obtain ⟨found, member, lower⟩ := List.mem_map.mp among
      exact missing found (List.mem_of_mem_take member) lower
    simp only [splitAtIgnoringCase, starts, Bool.false_eq_true, ↓reduceIte,
      ih fun other member => missing other (List.mem_cons_of_mem c member), Option.map_none]

end Text

namespace Format

/-- The last place of a kind, where what follows is of another kind. -/
theorem lastIndex?_append {p : Char → Bool} {c : Char} (last : p c = true) (front back : List Char)
    (others : ∀ other ∈ back, p other = false) : lastIndex? p (front ++ c :: back) = some front.length := by
  have none : back.reverse.findIdx? p = none := by simpa [List.findIdx?_eq_none_iff] using others
  have index : ((front ++ c :: back).reverse.findIdx? p) = some back.length := by
    simp [List.findIdx?_append, none, List.findIdx?_cons, last]
  rw [lastIndex?, index, Option.map_some, List.length_append, List.length_cons]
  congr 1
  omega

/-- A text that starts with a placeholder is cut after the last one, if no fixed denominator is left beyond it. -/
theorem bounds_of_last {c : Char} (first : isPlaceholder c = true) {rest : List Char} {last : Nat}
    (ends : lastIndex? isPlaceholder (c :: rest) = some last)
    (before : ∀ slash, (c :: rest).findIdx? (· == '/') = some slash → slash ≤ last) :
    DigitPattern.bounds (c :: rest) = (0, last + 1) := by
  have start : (c :: rest).findIdx? isPlaceholder = some 0 := by rw [List.findIdx?_cons, if_pos first]
  unfold DigitPattern.bounds
  simp only [start, ends, Option.map_some, Nat.lt_irrefl, false_and, ↓reduceIte, Option.getD_some, List.drop_zero,
    Nat.add_zero, Option.map_id']
  cases found : (c :: rest).findIdx? (· == '/') with
  | none => rfl
  | some slash =>
    have late : ¬last < slash := Nat.not_lt.mpr (before slash found)
    simp [late]

theorem exponentAt?_eq_none {text : List Char} (others : ∀ c ∈ text, c ≠ 'E' ∧ c ≠ 'e') :
    DigitPattern.exponentAt? text = none := by
  induction text with
  | nil => rfl
  | cons c rest ih =>
    rw [DigitPattern.exponentAt?, if_neg, ih fun other member => others other (List.mem_cons_of_mem c member),
      Option.map_none]
    have here := others c List.mem_cons_self
    tauto

/-- A text without characters for private use, which stand for literals. -/
def unreserved (text : List Char) : List Char := text.filter fun c => (placeholderIndex? c).isNone

@[simp] theorem unreserved_append (front back : List Char) :
    unreserved (front ++ back) = unreserved front ++ unreserved back := List.filter_append ..

theorem unreserved_eq_self {text : List Char} (plain : ∀ c ∈ text, placeholderIndex? c = none) :
    unreserved text = text :=
  List.filter_eq_self.mpr fun c member => by rw [plain c member]; rfl

/-- Where a section has no literals, nothing stands for them. -/
theorem Section.restore_of_literals_eq_nil (extract : Extract) (none : extract.literals = []) (text : List Char) :
    restore extract [] text = unreserved text := by
  unfold restore unreserved
  induction text with
  | nil => rfl
  | cons c rest ih =>
    rw [List.flatMap_cons, ih, List.filter_cons]
    cases placeholderIndex? c with
    | none => rfl
    | some index => simp [none]

/-- A code that is the body of its only section, where digits are described: its characters stand for themselves, and
there is neither a word, a letter of a date nor the sign for text among them. -/
structure IsDigits (code : List Char) : Prop where
  clean : ∀ c ∈ code, c ∉ '@' :: '[' :: noted ∧ isDateLetter c = false
  wordless : ∀ word ∈ ["general", "am/pm", "a/p"], Text.splitAtIgnoringCase word.toList code = none
  placed : code.any isPlaceholder = true

namespace IsDigits
variable {code : List Char} (digits : IsDigits code)
include digits

theorem lex_eq : Lexeme.lex code = code.map .plain := by
  have clean := digits.clean
  clear digits
  have ordinary (c : Char) (other : c ∉ '@' :: '[' :: noted) : c ≠ '"' ∧ c ≠ '[' ∧ ¬Lexeme.isMark c := by
    refine ⟨?_, ?_, fun mark => other ?_⟩
    · rintro rfl
      exact other (by decide)
    · rintro rfl
      exact other (by decide)
    · simp only [Lexeme.isMark, Bool.or_eq_true, beq_iff_eq] at mark
      rcases mark with (rfl | rfl) | rfl <;> decide
  unfold Lexeme.lex
  induction code with
  | nil => rfl
  | cons c rest ih =>
    obtain ⟨quote, opening, mark⟩ := ordinary c (clean c List.mem_cons_self).1
    rw [Lexeme.lexFrom, if_neg quote, if_neg opening, if_neg mark, List.map_cons,
      ih fun other member => clean other (List.mem_cons_of_mem c member)]

/-- Every character is read on its own, and none says anything about the section. -/
theorem ofLexemes_eq : Extract.ofLexemes (Lexeme.lex code) = { body := code } := by
  have grown (front : List Char) :
      (code.map Lexeme.plain).foldl Extract.addLexeme { body := front } = { body := front ++ code } := by
    clear digits
    induction code generalizing front with
    | nil => rw [List.append_nil]; rfl
    | cons c rest ih => exact (ih (front ++ [c])).trans (by rw [List.append_assoc]; rfl)
  rw [digits.lex_eq]
  exact grown []

theorem classify_eq (category : Category) :
    Content.classify code false category = .digits (DigitPattern.parse code) := by
  have general := digits.wordless "general" (by simp)
  have meridian := digits.wordless "am/pm" (by simp)
  have short := digits.wordless "a/p" (by simp)
  have date : code.any isDateLetter = false := by
    simpa using fun c member => (digits.clean c member).2
  have sign : code.contains '@' = false := by
    rw [← Bool.not_eq_true, List.contains_iff_mem]
    exact fun member => (digits.clean '@' member).1 List.mem_cons_self
  rw [Content.classify, DateToken.hasDayHalf, general, meridian, short, date, sign, digits.placed]
  rfl

/-- The only section of the code, with the code as its body. -/
theorem exists_section (category : Category) : ∃ section_ : Section,
    (ParsedFormat.parse (String.ofList code) category).numericSections = [section_] ∧
      section_.toExtract = { body := code } ∧ section_.content = .digits (DigitPattern.parse code) := by
  obtain ⟨c, member, place⟩ := List.any_eq_true.mp digits.placed
  have visible : Text.isBlank c = false := by
    simp only [isPlaceholder, Bool.or_eq_true, beq_iff_eq] at place
    rcases place with (rfl | rfl) | rfl <;> rfl
  have kept := Text.mem_trim member visible
  have source : ParsedFormat.written (String.ofList code) = code := by
    simp [ParsedFormat.written, List.ne_nil_of_mem kept]
  have whole : splitSections code = [code] := by
    refine splitSections_of_not_mem fun ends => ?_
    rw [digits.lex_eq] at ends
    obtain ⟨c, member, same⟩ := List.mem_map.mp ends
    cases same
    exact (digits.clean ';' member).1 (by simp [noted])
  have extract : (Section.ofLexemes category (Lexeme.lex code)).toExtract = { body := code } := digits.ofLexemes_eq
  have content : (Section.ofLexemes category (Lexeme.lex code)).content = .digits (DigitPattern.parse code) := by
    simp only [Section.ofLexemes, digits.ofLexemes_eq, digits.classify_eq]
  refine ⟨Section.ofLexemes category (Lexeme.lex code), ?_, extract, content⟩
  rw [ParsedFormat.parse_eq, source, whole]
  simp [ParsedFormat.ofSections, content, ParsedFormat.numericSections]

/-- A number shows as the pattern is filled with its magnitude, with a minus sign before it if it is negative. -/
theorem render?_eq {n : Number} (finite : n.isFinite = true) (context : Context) (category : Category)
    {text : List Char} (filled : patternText? n.abs (.parse code) context.locale context.category = some text) :
    render? (.number n) (.parse (String.ofList code) category) context =
      some ⟨(if n < 0 then ['-'] else []) ++ unreserved text, none⟩ := by
  obtain ⟨section_, only, extract, content⟩ := digits.exists_section category
  have selected : selectSection [section_] n = some (section_, decide (n < 0)) := by
    simp [selectSection, extract]
  have restored (text : List Char) := Section.restore_of_literals_eq_nil { body := code } rfl text
  have sign : unreserved ('-' :: text) = '-' :: unreserved text := rfl
  simp only [render?, renderNumber?, finite, ↓reduceIte, only, selected, content]
  by_cases negative : n < 0 <;> simp [extract, filled, finish?, applyCurrency, restored, negative, sign]

end IsDigits

/-- Characters of digit patterns that are nothing else. -/
def patternChars : List Char := "0123456789#? ./".toList

/-- A code of such characters, with a placeholder. -/
structure IsPattern (code : List Char) : Prop where
  clean : ∀ c ∈ code, c ∈ patternChars
  placed : code.any isPlaceholder = true

namespace IsPattern
variable {code : List Char} (pattern : IsPattern code)
include pattern

/-- Each of the words has one of two letters. -/
theorem isDigits : IsDigits code := by
  have letters : ∀ c ∈ patternChars, c.toLower ≠ 'g' ∧ c.toLower ≠ 'a' ∧ c ∉ '@' :: '[' :: noted ∧
      isDateLetter c = false := List.all_iff_forall_prop.mp (by decide)
  have ordinary := fun c member => letters c (pattern.clean c member)
  refine ⟨fun c member => (ordinary c member).2.2, ?_, pattern.placed⟩
  simp only [List.forall_mem_cons]
  refine ⟨?general, ?meridian, ?short, fun _ none => nomatch none⟩
  case general => exact Text.splitAtIgnoringCase_eq_none _ 'g' (by decide) fun c member => (ordinary c member).1
  case meridian => exact Text.splitAtIgnoringCase_eq_none _ 'a' (by decide) fun c member => (ordinary c member).2.1
  case short => exact Text.splitAtIgnoringCase_eq_none _ 'a' (by decide) fun c member => (ordinary c member).2.1

theorem exists_section (category : Category) : ∃ section_ : Section,
    (ParsedFormat.parse (String.ofList code) category).numericSections = [section_] ∧
      section_.toExtract = { body := code } ∧ section_.content = .digits (DigitPattern.parse code) :=
  pattern.isDigits.exists_section category

theorem render?_eq {n : Number} (finite : n.isFinite = true) (context : Context) (category : Category)
    {text : List Char} (filled : patternText? n.abs (.parse code) context.locale context.category = some text) :
    render? (.number n) (.parse (String.ofList code) category) context =
      some ⟨(if n < 0 then ['-'] else []) ++ unreserved text, none⟩ :=
  pattern.isDigits.render?_eq finite context category filled

end IsPattern

end Format
end Spreadsheet
