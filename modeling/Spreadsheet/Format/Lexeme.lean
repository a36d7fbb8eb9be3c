/-! The lexemes of a format code: text in quotes, single characters behind a mark, brackets, and characters that
stand for themselves. A semicolon of the last kind ends a section. -/
namespace Spreadsheet.Format

/-- Quotes and brackets may lack their end, which is then the end of the code. A mark at the end of the code has
no character to go with. -/
inductive Lexeme where
  | plain (c : Char)
  | quoted (content : List Char) (closed : Bool)
  | escaped (c : Char)
  | spacer (c : Char)
  | fill (c : Char)
  | bracket (content : List Char) (closed : Bool)
  | trailing (mark : Char)
deriving DecidableEq

namespace Lexeme

/-- A lexeme as it is written. -/
def spell : Lexeme → List Char
  | plain c | trailing c => [c]
  | quoted content closed => '"' :: content ++ (if closed then ['"'] else [])
  | escaped c => ['\\', c]
  | spacer c => ['_', c]
  | fill c => ['*', c]
  | bracket content closed => '[' :: content ++ (if closed then [']'] else [])

/-- What has been begun and not ended. Characters of a content are held in reverse. -/
inductive Mode where
  | outside
  | inQuotes (content : List Char)
  | inBracket (content : List Char)
  | afterMark (mark : Char)

/-- The lexeme that a mark makes with the character after it. -/
def ofMark (mark c : Char) : Lexeme :=
  if mark = '\\' then escaped c else if mark = '_' then spacer c else fill c

def isMark (c : Char) : Bool := c == '\\' || c == '_' || c == '*'

def lexFrom : Mode → List Char → List Lexeme
  | .outside, [] => []
  | .inQuotes content, [] => [quoted content.reverse false]
  | .inBracket content, [] => [bracket content.reverse false]
  | .afterMark mark, [] => [trailing mark]
  | .outside, c :: rest =>
    if c = '"' then lexFrom (.inQuotes []) rest
    else if c = '[' then lexFrom (.inBracket []) rest
    else if isMark c then lexFrom (.afterMark c) rest
    else plain c :: lexFrom .outside rest
  | .inQuotes content, c :: rest =>
    if c = '"' then quoted content.reverse true :: lexFrom .outside rest
    else lexFrom (.inQuotes (c :: content)) rest
  | .inBracket content, c :: rest =>
    if c = ']' then bracket content.reverse true :: lexFrom .outside rest
    else lexFrom (.inBracket (c :: content)) rest
  | .afterMark mark, c :: rest => ofMark mark c :: lexFrom .outside rest

/-- The lexemes of a code. -/
def lex (code : List Char) : List Lexeme := lexFrom .outside code

def spellAll (lexemes : List Lexeme) : List Char := lexemes.flatMap spell

/-- What a mode has taken in. -/
def Mode.pending : Mode → List Char
  | .outside => []
  | .inQuotes content => '"' :: content.reverse
  | .inBracket content => '[' :: content.reverse
  | .afterMark mark => [mark]

/-- Marks that were taken in are marks. -/
def Mode.Proper : Mode → Prop
  | .afterMark mark => isMark mark
  | _ => True

theorem spell_ofMark {mark : Char} (proper : isMark mark) (c : Char) : (ofMark mark c).spell = [mark, c] := by
  simp only [isMark, Bool.or_eq_true, beq_iff_eq] at proper
  rcases proper with (rfl | rfl) | rfl <;> rfl

theorem spellAll_lexFrom (mode : Mode) (proper : mode.Proper) (code : List Char) :
    spellAll (lexFrom mode code) = mode.pending ++ code := by
  induction code generalizing mode with
  | nil => cases mode <;> simp [lexFrom, spellAll, spell, Mode.pending]
  | cons c rest ih =>
    cases mode with
    | outside =>
      simp only [lexFrom]
      split
      · next quote => rw [ih (.inQuotes []) trivial, quote]; rfl
      split
      · next opening => rw [ih (.inBracket []) trivial, opening]; rfl
      split
      · next mark => rw [ih (.afterMark c) mark]; rfl
      · simpa [spellAll, spell, Mode.pending] using ih .outside trivial
    | inQuotes content =>
      simp only [lexFrom]
      split
      · next quote => simpa [spellAll, spell, Mode.pending, quote] using ih .outside trivial
      · rw [ih (.inQuotes (c :: content)) trivial]; simp [Mode.pending]
    | inBracket content =>
      simp only [lexFrom]
      split
      · next closing => simpa [spellAll, spell, Mode.pending, closing] using ih .outside trivial
      · rw [ih (.inBracket (c :: content)) trivial]; simp [Mode.pending]
    | afterMark mark =>
      have spelled := spell_ofMark proper c
      simp only [lexFrom, spellAll, List.flatMap_cons, spelled]
      simpa [spellAll, Mode.pending] using ih .outside trivial

/-- No character of a code is lost. -/
theorem spellAll_lex (code : List Char) : spellAll (lex code) = code := spellAll_lexFrom .outside trivial code

/-- The runs of lexemes between semicolons. -/
def sections : List Lexeme → List (List Lexeme)
  | [] => [[]]
  | lexeme :: rest =>
    if lexeme = .plain ';' then [] :: sections rest
    else match sections rest with
      | [] => [[lexeme]]
      | first :: others => (lexeme :: first) :: others

end Lexeme

/-- The sections of a code as they are written. -/
def splitSections (code : List Char) : List (List Char) :=
  (Lexeme.sections (Lexeme.lex code)).map Lexeme.spellAll

end Spreadsheet.Format
