import Spreadsheet.Proofs.Format.Lexing

/-! The division of a code into sections. Nothing is lost in it, and a section is read as a code of its own in the way
in which it is read within the whole. Two other readers find the same: one that goes character by character and knows
only whether it is in quotes or in a bracket, and one that leaps to the end of each. -/
namespace Spreadsheet.Format
namespace Lexeme

/-- A character is a lexeme of its own only outside of everything else, where it opens nothing and is no mark. -/
theorem eq_of_plain_mem_completed {mode : Mode} {c d : Char} (among : plain d ∈ mode.completed c) :
    mode = .outside ∧ c = d ∧ d ≠ '"' ∧ d ≠ '[' ∧ isMark d = false := by
  cases mode with
  | outside =>
    simp only [Mode.completed] at among
    split at among
    · cases among
    · cases List.mem_singleton.mp among
      simp_all
  | inQuotes content => simp only [Mode.completed] at among; split at among <;> simp at among
  | inBracket content => simp only [Mode.completed] at among; split at among <;> simp at among
  | afterMark mark =>
    simp only [Mode.completed, ofMark, List.mem_singleton] at among
    split at among
    · cases among
    · split at among <;> cases among

/-- The first semicolon that stands for itself divides a code where nothing is left open. -/
theorem exists_of_mem_lexFrom {mode : Mode} {code : List Char} (ends : plain ';' ∈ lexFrom mode code) :
    ∃ first rest, code = first ++ ';' :: rest ∧ first.foldl Mode.next mode = .outside ∧
      plain ';' ∉ lexFrom mode first := by
  induction code generalizing mode with
  | nil => cases mode <;> simp [lexFrom] at ends
  | cons c code ih =>
    rw [lexFrom_cons, List.mem_append] at ends
    by_cases here : plain ';' ∈ mode.completed c
    · obtain ⟨rfl, rfl, _⟩ := eq_of_plain_mem_completed here
      exact ⟨[], code, rfl, rfl, by simp [lexFrom]⟩
    · obtain ⟨first, rest, rfl, ended, none⟩ := ih (ends.resolve_left here)
      refine ⟨c :: first, rest, rfl, ended, ?_⟩
      rw [lexFrom_cons, List.mem_append]
      exact not_or.mpr ⟨here, none⟩

theorem lex_semicolon {first : List Char} (ended : Mode.after first = .outside) (rest : List Char) :
    lex (first ++ ';' :: rest) = lex first ++ plain ';' :: lex rest := lexFrom_append ended (';' :: rest)

theorem sections_of_not_mem {lexemes : List Lexeme} (none : plain ';' ∉ lexemes) : sections lexemes = [lexemes] := by
  induction lexemes with
  | nil => rfl
  | cons lexeme rest ih =>
    obtain ⟨other, others⟩ := not_or.mp (mt List.mem_cons.mpr none)
    rw [sections, if_neg (Ne.symm other), ih others]

theorem sections_append {first : List Lexeme} (none : plain ';' ∉ first) (rest : List Lexeme) :
    sections (first ++ plain ';' :: rest) = first :: sections rest := by
  induction first with
  | nil => simp [sections]
  | cons lexeme first ih =>
    obtain ⟨other, others⟩ := not_or.mp (mt List.mem_cons.mpr none)
    rw [List.cons_append, sections, if_neg (Ne.symm other), ih others]

end Lexeme

open Lexeme

/-- A code is one section, or a first section, a semicolon and the rest of the code. -/
theorem code_induction {motive : List Char → Prop}
    (whole : ∀ code, plain ';' ∉ lex code → motive code)
    (divided : ∀ first rest, Mode.after first = .outside → plain ';' ∉ lex first → motive rest →
      motive (first ++ ';' :: rest)) (code : List Char) : motive code := by
  induction short : code.length using Nat.strongRecOn generalizing code with
  | _ length ih =>
    by_cases ends : plain ';' ∈ lex code
    · obtain ⟨first, rest, rfl, ended, none⟩ := exists_of_mem_lexFrom ends
      refine divided first rest ended none (ih rest.length ?_ rest rfl)
      rw [← short, List.length_append, List.length_cons]
      omega
    · exact whole code ends

theorem splitSections_of_not_mem {code : List Char} (none : plain ';' ∉ lex code) : splitSections code = [code] := by
  rw [splitSections, sections_of_not_mem none, List.map_singleton, spellAll_lex]

theorem splitSections_append {first : List Char} (ended : Mode.after first = .outside) (none : plain ';' ∉ lex first)
    (rest : List Char) : splitSections (first ++ ';' :: rest) = first :: splitSections rest := by
  rw [splitSections, lex_semicolon ended, sections_append none, List.map_cons, spellAll_lex]
  rfl

theorem splitSections_ne_nil (code : List Char) : splitSections code ≠ [] := by
  simp [splitSections, sections_ne_nil]

/-- Sections with semicolons between them are the code. -/
theorem intercalate_splitSections (code : List Char) : [';'].intercalate (splitSections code) = code := by
  induction code using code_induction with
  | whole code none => rw [splitSections_of_not_mem none, List.intercalate_singleton]
  | divided first rest ended none ih =>
    obtain ⟨second, others, split⟩ := List.exists_cons_of_ne_nil (splitSections_ne_nil rest)
    rw [splitSections_append ended none, split, List.intercalate_cons_cons, ← split, ih, List.append_assoc,
      List.singleton_append]

/-- No semicolon of a section stands for itself. -/
theorem not_mem_lex_of_mem_splitSections {code source : List Char} (among : source ∈ splitSections code) :
    plain ';' ∉ lex source := by
  induction code using code_induction with
  | whole code none =>
    rw [splitSections_of_not_mem none, List.mem_singleton] at among
    rwa [among]
  | divided first rest ended none ih =>
    rw [splitSections_append ended none] at among
    rcases List.mem_cons.mp among with rfl | later
    · exact none
    · exact ih later

theorem splitSections_of_mem {code source : List Char} (among : source ∈ splitSections code) :
    splitSections source = [source] :=
  splitSections_of_not_mem (not_mem_lex_of_mem_splitSections among)

/-- The lexemes between semicolons are those of the sections. -/
theorem sections_lex (code : List Char) : sections (lex code) = (splitSections code).map lex := by
  induction code using code_induction with
  | whole code none => rw [splitSections_of_not_mem none, sections_of_not_mem none, List.map_singleton]
  | divided first rest ended none ih =>
    rw [splitSections_append ended none, List.map_cons, ← ih, lex_semicolon ended, sections_append none]

/-- Divides a code character by character: all that is known of the characters before are those taken into the section,
which are held in reverse, and whether quotes or a bracket are open. A mark takes the character after it along. -/
def cutFrom (inQuotes inBracket : Bool) (taken : List Char) : List Char → List (List Char)
  | [] => [taken.reverse]
  | c :: rest =>
    if inQuotes then cutFrom (c != '"') inBracket (c :: taken) rest
    else if c = '"' ∧ !inBracket then cutFrom true inBracket (c :: taken) rest
    else if isMark c ∧ !inBracket then
      match rest with
      | [] => [(c :: taken).reverse]
      | next :: rest => cutFrom false inBracket (next :: c :: taken) rest
    else if c = '[' then cutFrom false true (c :: taken) rest
    else if c = ']' then cutFrom false false (c :: taken) rest
    else if c = ';' ∧ !inBracket then taken.reverse :: cutFrom false inBracket [] rest
    else cutFrom false inBracket (c :: taken) rest

namespace Lexeme

def Mode.isInQuotes : Mode → Bool
  | .inQuotes _ => true
  | _ => false

def Mode.isInBracket : Mode → Bool
  | .inBracket _ => true
  | _ => false

/-- The sections of the rest of a code, the first of them with what has been begun. -/
def splitFrom (mode : Mode) (code : List Char) : List (List Char) := (sections (lexFrom mode code)).map spellAll

theorem sections_append_of_not_mem {front : List Lexeme} (none : plain ';' ∉ front) (rest : List Lexeme) :
    sections (front ++ rest) = (sections rest).modifyHead (front ++ ·) := by
  induction front with
  | nil => exact (congrFun List.modifyHead_id (sections rest)).symm
  | cons lexeme front ih =>
    obtain ⟨other, others⟩ := not_or.mp (mt List.mem_cons.mpr none)
    obtain ⟨first, more, split⟩ := List.exists_cons_of_ne_nil (sections_ne_nil rest)
    rw [List.cons_append, sections, if_neg (Ne.symm other), ih others, split]
    rfl

/-- A character that ends no section is taken into the first one, with what it completes. -/
theorem splitFrom_cons {mode : Mode} {c : Char} (goes : ¬(mode = .outside ∧ c = ';')) (rest : List Char) :
    splitFrom mode (c :: rest) = (splitFrom (mode.next c) rest).modifyHead (spellAll (mode.completed c) ++ ·) := by
  have none : plain ';' ∉ mode.completed c := fun ends => by
    obtain ⟨outside, same, _⟩ := eq_of_plain_mem_completed ends
    exact goes ⟨outside, same⟩
  obtain ⟨first, more, split⟩ := List.exists_cons_of_ne_nil (sections_ne_nil (lexFrom (mode.next c) rest))
  rw [splitFrom, splitFrom, lexFrom_cons, sections_append_of_not_mem none, split]
  simp [spellAll]

/-- What a character completes and what is pending after it make up what was pending before and the character. -/
theorem spellAll_completed {mode : Mode} (proper : mode.Proper) (c : Char) :
    spellAll (mode.completed c) ++ (mode.next c).pending = mode.pending ++ [c] := by
  cases mode with
  | outside =>
    simp only [Mode.completed, Mode.next]
    split
    · split
      · simp_all [spellAll, Mode.pending]
      · split
        · simp_all [spellAll, Mode.pending]
        · simp_all [spellAll, Mode.pending]
    · simp_all [spellAll, spell, Mode.pending]
  | inQuotes content =>
    simp only [Mode.completed, Mode.next]
    split <;> simp_all [spellAll, spell, Mode.pending]
  | inBracket content =>
    simp only [Mode.completed, Mode.next]
    split <;> simp_all [spellAll, spell, Mode.pending]
  | afterMark mark => simp [Mode.completed, Mode.next, spellAll, spell_ofMark proper, Mode.pending]

/-- The next character by the two flags, if it ends no section and is no mark that takes the one after it along. -/
private theorem cutFrom_cons {mode : Mode} {c : Char} (unmarked : ∀ mark, mode ≠ .afterMark mark)
    (goes : mode = .outside → c ≠ ';' ∧ isMark c = false) (taken rest : List Char) :
    cutFrom mode.isInQuotes mode.isInBracket taken (c :: rest) =
      cutFrom (mode.next c).isInQuotes (mode.next c).isInBracket (c :: taken) rest := by
  cases mode with
  | outside =>
    obtain ⟨semicolon, mark⟩ := goes rfl
    by_cases quote : c = '"'
    · cases rest <;> simp [cutFrom, Mode.next, Mode.isInQuotes, Mode.isInBracket, quote]
    by_cases opening : c = '['
    · cases rest <;> simp [cutFrom, Mode.next, Mode.isInQuotes, Mode.isInBracket, opening, isMark]
    · cases rest <;> simp [cutFrom, Mode.next, Mode.isInQuotes, Mode.isInBracket, quote, opening, mark, semicolon]
  | inQuotes content =>
    by_cases quote : c = '"'
    · cases rest <;> simp [cutFrom, Mode.next, Mode.isInQuotes, Mode.isInBracket, quote]
    · have other : (c != '"') = true := bne_iff_ne.mpr quote
      cases rest <;> simp [cutFrom, Mode.next, Mode.isInQuotes, Mode.isInBracket, quote, other]
  | inBracket content =>
    by_cases closing : c = ']' <;> cases rest <;>
      simp [cutFrom, Mode.next, Mode.isInQuotes, Mode.isInBracket, closing]
  | afterMark mark => exact absurd rfl (unmarked mark)

private theorem cutFrom_semicolon (taken rest : List Char) :
    cutFrom false false taken (';' :: rest) = taken.reverse :: cutFrom false false [] rest := by
  cases rest <;> simp [cutFrom, isMark]

theorem splitFrom_semicolon (rest : List Char) :
    splitFrom .outside (';' :: rest) = [] :: splitFrom .outside rest := rfl

private theorem modifyHead_nil_append {α : Type} (runs : List (List α)) : runs.modifyHead ([] ++ ·) = runs :=
  congrFun List.modifyHead_id runs

section mark
variable {c : Char} (mark : isMark c = true)
include mark

private theorem outside_next : Mode.outside.next c = .afterMark c := by
  have other : ¬(c = '"' ∨ c = '[') := by
    rintro (rfl | rfl) <;> cases mark
  obtain ⟨quote, opening⟩ := not_or.mp other
  rw [Mode.next, if_neg quote, if_neg opening, if_pos mark]

private theorem splitFrom_outside (rest : List Char) :
    splitFrom .outside (c :: rest) = splitFrom (.afterMark c) rest := by
  have goes : ¬(Mode.outside = .outside ∧ c = ';') := by
    rintro ⟨-, rfl⟩
    cases mark
  have none : Mode.outside.completed c = [] := by simp [Mode.completed, mark]
  rw [splitFrom_cons goes, none, outside_next mark]
  exact modifyHead_nil_append _

/-- Both readers take the character behind a mark along with it. -/
private theorem splitFrom_mark (along : Char) (rest : List Char) :
    splitFrom .outside (c :: along :: rest) = (splitFrom .outside rest).modifyHead ([c, along] ++ ·) := by
  have goes : ¬(Mode.afterMark c = .outside ∧ along = ';') := fun both => nomatch both.1
  have taken : spellAll ((Mode.afterMark c).completed along) = [c, along] :=
    (List.append_nil _).trans (spell_ofMark mark along)
  rw [splitFrom_outside mark, splitFrom_cons goes, taken]
  rfl

private theorem cutFrom_mark (taken : List Char) (along : Char) (rest : List Char) :
    cutFrom false false taken (c :: along :: rest) = cutFrom false false (along :: c :: taken) rest := by
  have other : c ≠ '"' := by
    rintro rfl
    cases mark
  simp [cutFrom, mark, other]

/-- A mark at the end has no character to take along. -/
private theorem cutFrom_trailing (taken : List Char) :
    cutFrom false false taken [c] = (splitFrom .outside [c]).modifyHead (taken.reverse ++ ·) := by
  have other : c ≠ '"' := by
    rintro rfl
    cases mark
  rw [splitFrom_outside mark]
  simp [cutFrom, mark, other, splitFrom, lexFrom, sections, spellAll, spell]

end mark

/-- Only a mark outside of everything else is waiting for the character behind it. -/
private theorem isMark_of_next {mode : Mode} {c mark : Char} (waits : mode.next c = .afterMark mark) :
    mode = .outside ∧ isMark c = true := by
  cases mode with
  | outside =>
    refine ⟨rfl, ?_⟩
    simp only [Mode.next] at waits
    split at waits
    · cases waits
    · split at waits
      · cases waits
      · split at waits
        · assumption
        · cases waits
  | inQuotes content => simp only [Mode.next] at waits; split at waits <;> cases waits
  | inBracket content => simp only [Mode.next] at waits; split at waits <;> cases waits
  | afterMark mark => cases waits

/-- The two flags and what has been taken are all that has to be known of the characters before. -/
theorem cutFrom_eq {mode : Mode} (unmarked : ∀ mark, mode ≠ .afterMark mark) (front : List Char) :
    ∀ code : List Char, cutFrom mode.isInQuotes mode.isInBracket (front ++ mode.pending).reverse code =
      (splitFrom mode code).modifyHead (front ++ ·)
  | [] => by
    cases mode with
    | afterMark mark => exact absurd rfl (unmarked mark)
    | _ => simp [cutFrom, splitFrom, lexFrom, sections, spellAll, spell, Mode.pending]
  | c :: rest => by
    by_cases divides : mode = .outside ∧ c = ';'
    · obtain ⟨rfl, rfl⟩ := divides
      have later := cutFrom_eq unmarked [] rest
      rw [modifyHead_nil_append] at later
      rw [splitFrom_semicolon, ← later]
      simp [Mode.isInQuotes, Mode.isInBracket, Mode.pending, cutFrom_semicolon]
    by_cases marks : mode = .outside ∧ isMark c = true
    · obtain ⟨rfl, mark⟩ := marks
      simp only [Mode.isInQuotes, Mode.isInBracket, Mode.pending, List.append_nil]
      cases rest with
      | nil => rw [cutFrom_trailing mark, List.reverse_reverse]
      | cons along rest =>
        have later := cutFrom_eq unmarked (front ++ [c, along]) rest
        simp only [Mode.isInQuotes, Mode.isInBracket, Mode.pending, List.append_nil, List.reverse_append] at later
        rw [cutFrom_mark mark, splitFrom_mark mark, List.modifyHead_modifyHead]
        simpa [Function.comp_def] using later
    · have proper : mode.Proper := by
        cases mode with
        | afterMark mark => exact absurd rfl (unmarked mark)
        | _ => exact trivial
      have later := cutFrom_eq (fun mark waits => marks (isMark_of_next waits))
        (front ++ spellAll (mode.completed c)) rest
      rw [List.append_assoc, spellAll_completed proper, ← List.append_assoc, List.reverse_concat] at later
      rw [cutFrom_cons unmarked, later, splitFrom_cons divides, List.modifyHead_modifyHead]
      · simp [Function.comp_def]
      · intro outside
        exact ⟨fun same => divides ⟨outside, same⟩, by simpa [outside] using marks⟩

end Lexeme

/-- Dividing a code character by character finds its sections. -/
theorem cutFrom_eq_splitSections (code : List Char) : cutFrom false false [] code = splitSections code := by
  have unmarked (mark : Char) : Mode.outside ≠ .afterMark mark := fun waits => nomatch waits
  have cut := cutFrom_eq unmarked [] code
  rwa [modifyHead_nil_append] at cut

/-- A text before the first place where a character stands, and the text after it. -/
def cutAt? (mark : Char) : List Char → Option (List Char × List Char)
  | [] => none
  | c :: rest => if c = mark then some ([], rest) else (cutAt? mark rest).map fun (first, later) => (c :: first, later)

theorem length_lt_of_cutAt? {mark : Char} {text first later : List Char}
    (cut : cutAt? mark text = some (first, later)) : later.length < text.length := by
  induction text generalizing first with
  | nil => cases cut
  | cons c rest ih =>
    rw [cutAt?] at cut
    split at cut
    · cases cut
      exact Nat.lt_succ_self _
    · obtain ⟨⟨front, back⟩, found, same⟩ := Option.map_eq_some_iff.mp cut
      cases same
      exact Nat.lt_succ_of_lt (ih found)

/-- Reads a code by leaps: where quotes or a bracket open, the place is looked up where they close. -/
def lexByLeaps : List Char → List Lexeme
  | [] => []
  | c :: rest =>
    if c = '"' then
      match _ : cutAt? '"' rest with
      | some (content, later) => quoted content true :: lexByLeaps later
      | none => [quoted rest false]
    else if c = '[' then
      match _ : cutAt? ']' rest with
      | some (content, later) => bracket content true :: lexByLeaps later
      | none => [bracket rest false]
    else if isMark c then
      match rest with
      | [] => [trailing c]
      | along :: later => ofMark c along :: lexByLeaps later
    else plain c :: lexByLeaps rest
termination_by code => code.length
decreasing_by
  · exact Nat.lt_succ_of_lt (length_lt_of_cutAt? ‹_›)
  · exact Nat.lt_succ_of_lt (length_lt_of_cutAt? ‹_›)
  · exact Nat.lt_add_of_pos_right (by decide : 0 < 2)
  · exact Nat.lt_succ_self _

namespace Lexeme

/-- Quotes last to the next quote, or to the end. -/
theorem lexFrom_inQuotes_eq (content rest : List Char) :
    lexFrom (.inQuotes content) rest = match cutAt? '"' rest with
      | some (first, later) => quoted (content.reverse ++ first) true :: lex later
      | none => [quoted (content.reverse ++ rest) false] := by
  induction rest generalizing content with
  | nil => simp [lexFrom, cutAt?]
  | cons c rest ih =>
    by_cases quote : c = '"'
    · simp [lexFrom, cutAt?, quote, lex]
    · rw [lexFrom, if_neg quote, ih, cutAt?, if_neg quote]
      cases cutAt? '"' rest <;> simp

/-- A bracket lasts to the next closing one, or to the end. -/
theorem lexFrom_inBracket_eq (content rest : List Char) :
    lexFrom (.inBracket content) rest = match cutAt? ']' rest with
      | some (first, later) => bracket (content.reverse ++ first) true :: lex later
      | none => [bracket (content.reverse ++ rest) false] := by
  induction rest generalizing content with
  | nil => simp [lexFrom, cutAt?]
  | cons c rest ih =>
    by_cases closing : c = ']'
    · simp [lexFrom, cutAt?, closing, lex]
    · rw [lexFrom, if_neg closing, ih, cutAt?, if_neg closing]
      cases cutAt? ']' rest <;> simp

end Lexeme

/-- Reading by leaps finds the same lexemes. -/
theorem lexByLeaps_eq_lex (code : List Char) : lexByLeaps code = lex code := by
  fun_induction lexByLeaps code with
  | case1 => rw [lex, lexFrom]
  | case2 rest content later cut ih => simp [lex, lexFrom, lexFrom_inQuotes_eq, cut, ih]
  | case3 rest none => simp [lex, lexFrom, lexFrom_inQuotes_eq, none]
  | case4 rest content later cut _ ih => simp [lex, lexFrom, lexFrom_inBracket_eq, cut, ih]
  | case5 rest none _ => simp [lex, lexFrom, lexFrom_inBracket_eq, none]
  | case6 mark quote opening isMark => simp [lex, lexFrom, quote, opening, isMark]
  | case7 mark quote opening isMark along later ih => simp [lex, lexFrom, quote, opening, isMark, ih]
  | case8 c rest quote opening other ih => simp [lex, lexFrom, quote, opening, other, ih]

end Spreadsheet.Format
