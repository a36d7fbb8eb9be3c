import Spreadsheet.Format.Lexeme
import Spreadsheet.Format.Bracket
import Spreadsheet.Format.DateToken
import Spreadsheet.Format.DigitPattern

/-! Sections of a format code: what their brackets say, their literal text set aside, and the kind of value that
the rest describes. -/
namespace Spreadsheet.Format

/-- Literal text is kept out of the way of digits and letters: in its place stands a character from the private use
area that has its number. -/
def placeholder (index : Nat) : Char := Char.ofNat ((0xE000 + index) % 0x10000)

/-- The number that a private-use character stands for. -/
def placeholderIndex? (c : Char) : Option Nat :=
  if 0xE000 ≤ c.toNat ∧ c.toNat ≤ 0xF8FF then some (c.toNat - 0xE000) else none

/-- What can be read off a section before its kind is known. The fill is a literal that is repeated to fill up the
cell. The symbol of a currency bracket is a literal too. -/
structure Extract where
  body : List Char := []
  literals : List (List Char) := []
  fill : Option (Nat × Char) := none
  color : Option String := none
  condition : Option Condition := none
  currency : Option (List Char) := none
  currencyIndex : Option Nat := none
  localeCode : Option (List Char) := none
  elapsed : Bool := false

namespace Extract

def addLiteral (extract : Extract) (text : List Char) : Extract :=
  { extract with
    body := extract.body ++ [placeholder extract.literals.length]
    literals := extract.literals ++ [text] }

/-- The symbol of the first currency bracket that has one prints where the bracket stands; the last bracket decides
which symbol takes the place of one in the pattern. -/
def addCurrency (extract : Extract) (symbol : List Char) (code : Option (List Char)) : Extract :=
  let extract := { extract with currency := some symbol, localeCode := code.or extract.localeCode }
  if symbol.isEmpty || extract.currencyIndex.isSome then extract
  else { extract with currencyIndex := some extract.literals.length }.addLiteral symbol

def addBracket (extract : Extract) (content : List Char) : Extract :=
  match Bracket.read content with
  | .color hex => { extract with color := some hex }
  | .condition condition => { extract with condition := some condition }
  | .currency symbol code => extract.addCurrency symbol code
  | .elapsed => { extract with elapsed := true, body := extract.body ++ '[' :: content ++ [']'] }
  | .literal => extract.addLiteral ('[' :: content ++ [']'])

def addLexeme (extract : Extract) : Lexeme → Extract
  | .plain c => { extract with body := extract.body ++ [c] }
  | .quoted content _ => extract.addLiteral content
  | .escaped c => extract.addLiteral [c]
  | .spacer _ => extract.addLiteral [' ']
  | .fill c =>
    if extract.fill.isSome then extract
    else { extract with fill := some (extract.literals.length, c) }.addLiteral []
  | .bracket content true => extract.addBracket content
  | .bracket content false => extract.addLiteral ('[' :: content)
  | .trailing _ => extract

def ofLexemes (lexemes : List Lexeme) : Extract := lexemes.foldl addLexeme {}

end Extract

/-- What the body of a section describes. -/
inductive Content where
  | general
  | text
  | dateTime (tokens : List DateToken)
  | digits (pattern : DigitPattern)
  | literal
deriving DecidableEq

/-- A letter of a date or time. -/
def isDateLetter (c : Char) : Bool := "ymdhs".toList.contains c.toLower

/-- The word `General` comes first, then letters of dates and times, the sign for text, and digit placeholders. -/
def Content.classify (body : List Char) (elapsed : Bool) (category : Category) : Content :=
  if (Text.splitAtIgnoringCase "general".toList body).isSome then .general
  else if elapsed || body.any isDateLetter || DateToken.hasDayHalf body then
    .dateTime (DateToken.tokenize body category)
  else if body.contains '@' then .text
  else if body.any isPlaceholder then .digits (DigitPattern.parse body)
  else .literal

structure Section extends Extract where
  source : List Char
  content : Content

namespace Section

def ofLexemes (category : Category) (lexemes : List Lexeme) : Section :=
  let extract := Extract.ofLexemes lexemes
  { extract with
    source := Lexeme.spellAll lexemes
    content := Content.classify extract.body extract.elapsed category }

/-- A text with the literals put back, or what is given in their place. -/
def restore (extract : Extract) (overrides : List (Nat × List Char)) (text : List Char) : List Char :=
  text.flatMap fun c =>
    match placeholderIndex? c with
    | some index => ((overrides.lookup index).or extract.literals[index]?).getD []
    | none => [c]

end Section

/-- A code of up to four sections. The numeric ones are for numbers, in the order of positive, negative and zero;
a fourth one or a last one with the sign for text is for text. -/
structure ParsedFormat where
  code : String
  sections : List Section
  numericCount : Nat
  textSection : Option Section

namespace ParsedFormat

def numericSections (format : ParsedFormat) : List Section := format.sections.take format.numericCount

/-- A blank code is `General`. -/
def parse (code : String) (category : Category) : ParsedFormat :=
  let chars := code.toList
  let written := if (Text.trim chars).isEmpty then "General".toList else chars
  let sections := ((Lexeme.sections (Lexeme.lex written)).take 4).map (Section.ofLexemes category)
  match sections.getLast? with
  | some last =>
    if sections.length = 4 ∨ last.content = .text then ⟨code, sections, sections.length - 1, some last⟩
    else ⟨code, sections, sections.length, none⟩
  | none => ⟨code, sections, 0, none⟩

end ParsedFormat
end Spreadsheet.Format
