import Spreadsheet.Proofs.Format.Literals
import Spreadsheet.Proofs.Format.Sections

/-! The bodies of sections. What is left of a section once its brackets have been read and its literal text set aside
has no character that the division of a code looks at, and a bracket only where it asks for elapsed time: division and
reading agree on what is in quotes, in a bracket or behind a mark. -/
namespace Spreadsheet.Format

theorem Bracket.isElapsed_of_read {content : List Char} (elapsed : Bracket.read content = .elapsed) :
    Bracket.isElapsed content = true := by
  cases letters : Bracket.isElapsed content with
  | true => rfl
  | false =>
    simp only [Bracket.read, letters, Bool.false_eq_true, ↓reduceIte] at elapsed
    split at elapsed
    · cases elapsed
    split at elapsed
    · rename_i index _
      cases found : Palette.color? index <;> simp [found] at elapsed
    split at elapsed
    · cases elapsed
    split at elapsed <;> cases elapsed

namespace Lexeme

/-- A character that stands for itself opens nothing and is no mark. -/
theorem plain_of_mem_lexFrom {mode : Mode} {code : List Char} {c : Char} (member : plain c ∈ lexFrom mode code) :
    c ≠ '"' ∧ c ≠ '[' ∧ isMark c = false := by
  induction code generalizing mode with
  | nil => cases mode <;> simp [lexFrom] at member
  | cons head rest ih =>
    rw [lexFrom_cons, List.mem_append] at member
    rcases member with here | later
    · exact (eq_of_plain_mem_completed here).2.2
    · exact ih later

end Lexeme

namespace Extract

/-- What a lexeme may do to the body and the literals of a section. -/
inductive Grows (extract : Extract) : Lexeme → Extract → Prop
  | nothing {lexeme : Lexeme} {after : Extract} (body : after.body = extract.body)
      (literals : after.literals = extract.literals) (elapsed : after.elapsed = extract.elapsed) :
      Grows extract lexeme after
  | char {c : Char} {after : Extract} (body : after.body = extract.body ++ [c])
      (literals : after.literals = extract.literals) (elapsed : after.elapsed = extract.elapsed) :
      Grows extract (.plain c) after
  | literal {lexeme : Lexeme} {after : Extract} (text : List Char)
      (body : after.body = extract.body ++ [placeholder extract.literals.length])
      (literals : after.literals = extract.literals ++ [text]) (elapsed : after.elapsed = extract.elapsed) :
      Grows extract lexeme after
  | bracket {content : List Char} {after : Extract} (unit : Bracket.isElapsed content = true)
      (body : after.body = extract.body ++ '[' :: content ++ [']'])
      (literals : after.literals = extract.literals) (elapsed : after.elapsed = true) :
      Grows extract (.bracket content true) after

theorem grows_addBracket (extract : Extract) (content : List Char) :
    Grows extract (.bracket content true) (extract.addBracket content) := by
  unfold addBracket
  cases read : Bracket.read content with
  | color hex => exact .nothing rfl rfl rfl
  | condition condition => exact .nothing rfl rfl rfl
  | currency symbol code =>
    simp only [addCurrency]
    split
    · exact .nothing rfl rfl rfl
    · exact .literal symbol rfl rfl rfl
  | elapsed => exact .bracket (Bracket.isElapsed_of_read read) rfl rfl rfl
  | literal => exact .literal _ rfl rfl rfl

theorem grows_addLexeme (extract : Extract) (lexeme : Lexeme) : Grows extract lexeme (extract.addLexeme lexeme) := by
  cases lexeme with
  | plain c => exact .char rfl rfl rfl
  | quoted content closed => exact .literal content rfl rfl rfl
  | escaped c => exact .literal [c] rfl rfl rfl
  | spacer c => exact .literal [' '] rfl rfl rfl
  | trailing mark => exact .nothing rfl rfl rfl
  | fill c =>
    by_cases filled : extract.fill.isSome = true
    · simp only [addLexeme, filled, ↓reduceIte]
      exact .nothing rfl rfl rfl
    · simp only [addLexeme, filled, Bool.false_eq_true, ↓reduceIte]
      exact .literal [] rfl rfl rfl
  | bracket content closed =>
    cases closed with
    | false => exact .literal ('[' :: content) rfl rfl rfl
    | true => exact grows_addBracket extract content

end Extract

/-- The characters that divide a code, open quotes or are marks. -/
def noted : List Char := [';', '"', '\\', '_', '*']

/-- A text without these characters, where a bracket opens only to ask for elapsed time. -/
structure Bare (body : List Char) : Prop where
  clean : ∀ c ∈ body, c ∉ noted
  elapsed : ∀ front back, body = front ++ '[' :: back →
    ∃ unit rest, back = unit ++ ']' :: rest ∧ Bracket.isElapsed unit = true

namespace Bare

theorem nil : Bare [] where
  clean := by simp
  elapsed front back same := by simp at same

theorem append {first second : List Char} (before : Bare first) (after : Bare second) : Bare (first ++ second) where
  clean := List.forall_mem_append.mpr ⟨before.clean, after.clean⟩
  elapsed front back same := by
    rcases List.append_eq_append_iff.mp same with ⟨skipped, -, within⟩ | ⟨opened, rfl, across⟩
    · exact after.elapsed skipped back within
    · cases opened with
      | nil => exact after.elapsed [] back across.symm
      | cons c opened =>
        obtain ⟨rfl, rfl⟩ := List.cons.inj across
        obtain ⟨unit, rest, rfl, letters⟩ := before.elapsed front opened rfl
        exact ⟨unit, rest ++ second, by simp, letters⟩

theorem of_forall {body : List Char} (ordinary : ∀ c ∈ body, c ∉ '[' :: noted) : Bare body where
  clean c member := List.not_mem_of_not_mem_cons (ordinary c member)
  elapsed front back same := absurd List.mem_cons_self (ordinary '[' (by simp [same]))

/-- The letters of an elapsed bracket. -/
theorem toLower_of_isElapsed {content : List Char} (elapsed : Bracket.isElapsed content = true) :
    ∀ c ∈ content, c.toLower ∈ ['h', 'm', 's'] := by
  cases content with
  | nil => cases elapsed
  | cons first rest =>
    simp only [Bracket.isElapsed, Bool.and_eq_true, Bool.or_eq_true, beq_iff_eq, List.all_eq_true] at elapsed
    obtain ⟨unit, same⟩ := elapsed
    have letter : first.toLower ∈ ['h', 'm', 's'] := by simpa [or_assoc] using unit
    intro c member
    rcases List.mem_cons.mp member with rfl | later
    · exact letter
    · rwa [same c later]

theorem bracket {content : List Char} (elapsed : Bracket.isElapsed content = true) :
    Bare ('[' :: content ++ [']']) := by
  have special : ∀ c ∈ '[' :: noted, c.toLower ∉ ['h', 'm', 's'] := by simp [noted]
  have inside : ∀ c ∈ content, c ∉ '[' :: noted := fun c member among =>
    special c among (toLower_of_isElapsed elapsed c member)
  have closing : ∀ c ∈ content ++ [']'], c ∉ '[' :: noted :=
    List.forall_mem_append.mpr ⟨inside, by simp [noted]⟩
  constructor
  · exact List.forall_mem_cons.mpr ⟨by decide, (of_forall closing).clean⟩
  · intro front back same
    cases front with
    | nil => exact ⟨content, [], (List.cons.inj same).2.symm, elapsed⟩
    | cons c front =>
      have again : content ++ [']'] = front ++ '[' :: back := (List.cons.inj same).2
      exact absurd List.mem_cons_self (closing '[' (by simp [again]))

end Bare

/-- Placeholders for as many literals are for private use. -/
def maxLiterals : Nat := 6400

theorem toNat_placeholder {index : Nat} (inside : index < maxLiterals) :
    (placeholder index).toNat = 0xE000 + index := by
  unfold maxLiterals at inside
  have valid : (0xE000 + index).isValidChar := Or.inr ⟨by omega, by omega⟩
  rw [placeholder, Nat.mod_eq_of_lt (by omega), Char.ofNat, dif_pos valid]
  rfl

theorem ordinary_placeholder {index : Nat} (inside : index < maxLiterals) :
    placeholder index ∉ '[' :: noted := by
  have code := toNat_placeholder inside
  have small : ∀ c ∈ '[' :: noted, c.toNat < 0xE000 := by simp [noted]
  intro among
  have below := small _ among
  omega

namespace Extract

/-- A lexeme that is no character of note leaves none in the body. -/
theorem bare_addLexeme {extract : Extract} {lexeme : Lexeme}
    (ordinary : ∀ c, lexeme = .plain c → c ∉ '[' :: noted)
    (bare : extract.literals.length ≤ maxLiterals → Bare extract.body)
    (few : (extract.addLexeme lexeme).literals.length ≤ maxLiterals) : Bare (extract.addLexeme lexeme).body := by
  cases grows_addLexeme extract lexeme with
  | nothing body literals _ =>
    rw [literals] at few
    rw [body]
    exact bare few
  | char body literals _ =>
    rw [literals] at few
    rw [body]
    exact (bare few).append (.of_forall (by simpa using ordinary _ rfl))
  | literal text body literals _ =>
    rw [literals, List.length_append, List.length_singleton] at few
    rw [body]
    exact (bare (Nat.le_of_succ_le few)).append (.of_forall (by simpa using ordinary_placeholder few))
  | bracket unit body literals _ =>
    rw [literals] at few
    rw [body, List.append_assoc]
    exact (bare few).append (.bracket unit)

/-- The body of a section of a code. -/
theorem bare_ofLexemes {code source : List Char} (among : source ∈ splitSections code)
    (few : (ofLexemes (Lexeme.lex source)).literals.length ≤ maxLiterals) :
    Bare (ofLexemes (Lexeme.lex source)).body := by
  unfold ofLexemes at few ⊢
  refine List.foldlRecOn (Lexeme.lex source) addLexeme
    (motive := fun extract : Extract => extract.literals.length ≤ maxLiterals → Bare extract.body)
    (fun _ => .nil) (fun extract bare lexeme member => bare_addLexeme ?_ bare) few
  rintro c rfl
  obtain ⟨quote, opening, mark⟩ := Lexeme.plain_of_mem_lexFrom member
  have semicolon : c ≠ ';' := by
    rintro rfl
    exact not_mem_lex_of_mem_splitSections among member
  simp_all [Lexeme.isMark, noted]

end Extract

namespace ParsedFormat

/-- The code that is read: a blank one is `General`. -/
def written (code : String) : List Char := if (Text.trim code.toList).isEmpty then "General".toList else code.toList

theorem sections_ofSections (code : String) (sections : List Section) :
    (ofSections code sections).sections = sections := by
  unfold ofSections
  split
  · split <;> rfl
  · rfl

/-- Each section is read as it is written. -/
theorem parse_eq (code : String) (category : Category) :
    parse code category = ofSections code
      (((splitSections (written code)).take 4).map fun source => Section.ofLexemes category (Lexeme.lex source)) := by
  have read : parse code category =
      ofSections code (((Lexeme.sections (Lexeme.lex (written code))).take 4).map (Section.ofLexemes category)) := rfl
  rw [read, sections_lex, ← List.map_take, List.map_map]
  rfl

/-- The sections of a code, put together with semicolons, are the code; each is a code of one section, and division
character by character finds the same ones. Each that is read is read by leaps as well, and up to the limit of literals
its body has no semicolon, quote or mark, and a bracket only for elapsed time. -/
theorem bare_parse (code : String) :
    [';'].intercalate (splitSections code.toList) = code.toList ∧
    (∀ source ∈ splitSections code.toList, splitSections source = [source]) ∧
    cutFrom false false [] code.toList = splitSections code.toList ∧
    ∀ category,
      (parse code category).sections.map (·.source) = (splitSections (written code)).take 4 ∧
      ∀ section_ ∈ (parse code category).sections,
        section_.toExtract = Extract.ofLexemes (lexByLeaps section_.source) ∧
        (section_.literals.length ≤ maxLiterals → Bare section_.body) := by
  refine ⟨intercalate_splitSections _, fun _ => splitSections_of_mem, cutFrom_eq_splitSections _, fun category => ?_⟩
  rw [parse_eq, sections_ofSections]
  constructor
  · simp [Section.ofLexemes, Lexeme.spellAll_lex, Function.comp_def]
  · intro section_ among
    obtain ⟨source, member, rfl⟩ := List.mem_map.mp among
    refine ⟨?_, Extract.bare_ofLexemes (List.mem_of_mem_take member)⟩
    rw [lexByLeaps_eq_lex, Section.ofLexemes, Lexeme.spellAll_lex]

/-- A bracket and a semicolon in quotes, quotes and a semicolon in a bracket, stray brackets, a semicolon behind a mark,
and quotes that are never closed. -/
theorem bare_parse_malformed :
    let code := "0\";[\"[;\"]];]\\;;[hh]:\""
    (∀ source ∈ ["0\";[\"[;\"]]".toList, "]\\;".toList, "[hh]:\"".toList], splitSections source = [source]) ∧
    (parse code .custom).sections.map (·.source) =
      ["0\";[\"[;\"]]".toList, "]\\;".toList, "[hh]:\"".toList] ∧
    ∀ section_ ∈ (parse code .custom).sections, Bare section_.body := by
  intro code
  obtain ⟨_, alone, _, read⟩ := bare_parse code
  obtain ⟨sources, read⟩ := read .custom
  have split : splitSections code.toList = ["0\";[\"[;\"]]".toList, "]\\;".toList, "[hh]:\"".toList] := by
    decide +kernel
  have few : ∀ section_ ∈ (parse code .custom).sections, section_.literals.length ≤ maxLiterals := by
    decide +kernel
  refine ⟨fun source among => alone source (split ▸ among), sources.trans ?_, fun section_ among => ?_⟩
  · decide +kernel
  · exact (read section_ among).2 (few section_ among)

end ParsedFormat
end Spreadsheet.Format
