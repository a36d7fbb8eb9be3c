import Spreadsheet.Format.Section
import Spreadsheet.Format.Fraction
import Spreadsheet.Format.Scientific
import Spreadsheet.Format.Clock
import Spreadsheet.Calendar.Serial
import Spreadsheet.Cell.Value
import Spreadsheet.Locale.Lookup
import Spreadsheet.Text.Units

/-! Values rendered under a format. A number picks a section by its sign or by the conditions; the section is
filled in, its currency, sign and literals are put in place, and a fill takes up the width that is left. -/
namespace Spreadsheet.Format

/-- What a rendering depends on beside value and code. Widths are in any unit. -/
structure Context where
  category : Category
  locale : Locale
  availableWidth : Option Number
  charWidth : Number

/-- A text and the colour that the section asks for. -/
structure Rendered where
  text : List Char
  color : Option String := none
deriving DecidableEq

/-- The decimal mark where it replaces a point: two dollar signs stand for one, and a dollar sign before an
ampersand, a grave accent or an apostrophe for the point, the text before it and the text after it. -/
def expandMark (before after : List Char) : List Char → List Char
  | '$' :: c :: rest =>
    if c = '$' then '$' :: expandMark before after rest
    else if c = '&' then '.' :: expandMark before after rest
    else if c = '\x60' then before ++ expandMark before after rest
    else if c = '\x27' then after ++ expandMark before after rest
    else '$' :: expandMark before after (c :: rest)
  | c :: rest => c :: expandMark before after rest
  | [] => []

/-- A number without a pattern: at most fifteen significant digits, with the mark of the locale. -/
def generalText (value : Number) (locale : Locale) : List Char :=
  let text := (value.significant 15).text
  let before := text.takeWhile (· != '.')
  match text.dropWhile (· != '.') with
  | [] => text
  | _ :: after => before ++ expandMark before after locale.decimal.toList ++ after

/-- A magnitude under a digit pattern. Scaling commas divide by a thousand and percent signs multiply by a hundred;
the percentage category implies one percent sign. -/
def patternText? (magnitude : Number) (pattern : DigitPattern) (locale : Locale) (category : Category) :
    Option (List Char) := do
  let implied := category = .percentage && pattern.percents = 0
  let percents := pattern.percents + if implied then 1 else 0
  let x := magnitude / .power 1000 pattern.scale * .power 100 percents
  let core ← match pattern.fraction, pattern.exponent with
    | some fraction, _ => fractionText? x fraction
    | none, some exponent => scientificText? x pattern exponent locale
    | none, none => fixedText? x pattern locale
  return pattern.lead ++ core ++ pattern.trail ++ if implied then ['%'] else []

/-- The section for a number, and whether a minus sign shows. -/
def selectSection (sections : List Section) (n : Number) : Option (Section × Bool) :=
  let negative := decide (n < 0)
  if sections.any (·.condition.isSome) then
    match sections.find? (·.condition.any (·.holds n)) with
    | some chosen => some (chosen, negative && !chosen.condition.any Condition.onlyNegatives)
    | none => (sections.find? (·.condition.isNone)).map (·, negative)
  else match sections with
    | [] => none
    | [only] => some (only, negative)
    | [positive, second] => some (if negative then second else positive, false)
    | positive :: second :: third :: _ =>
      some (if decide (0 < n) then positive else if negative then second else third, false)

/-- Signs of currencies that a symbol in a bracket takes the place of. -/
def currencyGlyphs : List Char := ['$', '€', '£', '¥', '₹', '₽', '¢']

/-- Puts a symbol in place of the first currency sign of a text, or else of the first literal that is one. -/
def replaceGlyph? (section_ : Section) (text symbol : List Char) : Option (List Char × List (Nat × List Char)) :=
  match text.findIdx? currencyGlyphs.contains with
  | some place => some (text.take place ++ symbol ++ text.drop (place + 1), [])
  | none =>
    let isGlyph (entry : List Char × Nat) : Bool :=
      section_.currencyIndex != some entry.2 && currencyGlyphs.any (entry.1 == [·])
    (section_.literals.zipIdx.find? isGlyph).map fun (_, index) => (text, [(index, symbol)])

/-- The currency of a section put in. A symbol in the pattern gives way to that of the bracket, which then does not
print where it stands; a bracket that names only a locale asks for its symbol in currency formats. -/
def applyCurrency (section_ : Section) (text : List Char) (context : Context) (locale : Locale) :
    List Char × List (Nat × List Char) :=
  match section_.currency with
  | none => (text, [])
  | some [] =>
    if context.category = .currency || context.category = .accounting then
      (replaceGlyph? section_ text locale.currency.toList).getD (locale.currency.toList ++ text, [])
    else (text, [])
  | some symbol =>
    match replaceGlyph? section_ text symbol with
    | none => (text, [])
    | some (replaced, overrides) =>
      (replaced, overrides ++ match section_.currencyIndex with
        | some index => [(index, [])]
        | none => [])

/-- The longest text that can be made, in 16-bit units. -/
def maxUnits : Nat := 536870888

/-- The count of fill characters: as many as the width has room for beside the rest of the text. -/
def fillCount? (width charWidth : Number) (used : Nat) : Option Nat :=
  match (width / charWidth).floor - .ofNat used with
  | .nan => some 0
  | room =>
    if room ≤ 0 then some 0
    else room.toInt?.bind fun count => if count.toNat ≤ maxUnits then some count.toNat else none

/-- Currency, sign, literals and fill, in this order. A fill without a width is one space. -/
def finish? (section_ : Section) (body : List Char) (showSign : Bool) (context : Context) (locale : Locale) :
    Option Rendered := do
  let (text, overrides) := applyCurrency section_ body context locale
  let text := if showSign then '-' :: text else text
  let overrides ← match section_.fill with
    | none => some overrides
    | some (index, c) =>
      match context.availableWidth with
      | none => some ((index, [' ']) :: overrides)
      | some width =>
        let used := Text.units (Section.restore section_.toExtract ((index, []) :: overrides) text)
        (fillCount? width context.charWidth used).map fun count => (index, List.replicate count c) :: overrides
  return ⟨Section.restore section_.toExtract overrides text, section_.color⟩

/-- Replaces each text sign. -/
def replaceTextSigns (body replacement : List Char) : List Char :=
  body.flatMap fun c => if c = '@' then replacement else [c]

/-- The text of a value that no section applies to. -/
def plainText (value : CellValue) (locale : Locale) : List Char :=
  match value with
  | .number n => generalText n locale
  | _ => value.display.toList

/-- The milliseconds that an elapsed time shows. -/
def elapsedMs (value : CellValue) (magnitude : Number) : Number :=
  match value with
  | .duration ms => ms.abs
  | _ => (magnitude * .ofNat msPerDay).round

/-- A number, or the number that a date or duration is, under the numeric sections. -/
def renderNumber? (n : Number) (value : CellValue) (format : ParsedFormat) (context : Context) : Option Rendered :=
  match if n.isFinite then selectSection format.numericSections n else none with
  | none => some ⟨plainText value context.locale, none⟩
  | some (section_, showSign) => do
    let locale := (section_.localeCode.map Locale.ofCode).getD context.locale
    let magnitude := n.abs
    let isNumber := value.isNumber
    match section_.content with
    | .general =>
      let shown := if isNumber then generalText magnitude locale else value.display.toList
      let body := match Text.splitAtIgnoringCase "general".toList section_.body with
        | some (before, after) => before ++ shown ++ after
        | none => section_.body
      finish? section_ body (showSign && isNumber) context locale
    | .dateTime tokens =>
      if tokens.any DateToken.isElapsed || context.category = .duration then
        finish? section_ (elapsedText tokens (elapsedMs value magnitude) locale) showSign context locale
      else
        let instant := match value with
          | .date instant => instant
          | _ => Instant.ofSerial? n
        finish? section_ (← dateText? tokens instant locale) false context locale
    | .digits pattern =>
      finish? section_ (← patternText? magnitude pattern locale context.category) showSign context locale
    | .text => finish? section_ (replaceTextSigns section_.body (generalText magnitude locale)) showSign context locale
    | .literal => finish? section_ section_.body showSign context locale

/-- Text between the text signs has its literals put back; the value itself is left alone. -/
def renderText (content : String) (section_ : Section) : Rendered :=
  let pieces := section_.body.flatMap fun c =>
    if c = '@' then content.toList else Section.restore section_.toExtract [] [c]
  ⟨pieces, section_.color⟩

/-- A value under a parsed format; none if it cannot be rendered. -/
def render? (value : CellValue) (format : ParsedFormat) (context : Context) : Option Rendered :=
  match value with
  | .boolean _ | .error _ | .formula _ => some ⟨value.display.toList, none⟩
  | .text content => some ((format.textSection.map (renderText content)).getD ⟨content.toList, none⟩)
  | .number n => renderNumber? n value format context
  | .date instant => renderNumber? ((instant.bind Instant.toSerial?).getD .nan) value format context
  | .duration ms => renderNumber? (ms / .ofNat msPerDay) value format context

end Spreadsheet.Format
