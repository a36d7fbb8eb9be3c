import Spreadsheet.Format.Condition
import Spreadsheet.Format.Palette

/-! What a bracket in a format code says. -/
namespace Spreadsheet.Format

/-- A colour, a condition, a currency symbol with a locale code or not, elapsed hours, minutes or seconds, or
nothing but its own text. The symbol is empty where only a locale is named. -/
inductive Bracket where
  | color (hex : String)
  | condition (condition : Condition)
  | currency (symbol : List Char) (localeCode : Option (List Char))
  | elapsed
  | literal
deriving DecidableEq

namespace Bracket

/-- The number behind the word for a colour. -/
def colorIndex? (text : List Char) : Option Nat :=
  if Text.startsIgnoringCase "color".toList text then
    let digits := Text.trimLeft (text.drop 5)
    if Text.allDigits digits then some (Text.digitsValue digits) else none
  else none

/-- A dollar sign, a symbol without a dash, and a dash with a hexadecimal code or not. -/
def currency? : List Char → Option (List Char × Option (List Char))
  | '$' :: rest =>
    let symbol := rest.takeWhile (· != '-')
    match rest.dropWhile (· != '-') with
    | [] => some (symbol, none)
    | _ :: code => if !code.isEmpty && code.all Text.isHexDigit then some (symbol, some code) else none
  | _ => none

/-- A run of one of the letters h, m and s in any case. -/
def isElapsed : List Char → Bool
  | [] => false
  | c :: rest =>
    let unit := c.toLower
    (unit == 'h' || unit == 'm' || unit == 's') && rest.all (·.toLower == unit)

/-- White space at the ends of a bracket counts only for elapsed time. A colour that the palette lacks leaves the
bracket as it is. -/
def read (content : List Char) : Bracket :=
  let trimmed := Text.trim content
  match Palette.namedColor? trimmed with
  | some hex => color hex
  | none => match colorIndex? trimmed with
    | some index => ((Palette.color? index).map color).getD literal
    | none => match Condition.read? trimmed with
      | some found => condition found
      | none => match currency? trimmed with
        | some (symbol, code) => currency symbol code
        | none => if isElapsed content then elapsed else literal

end Bracket
end Spreadsheet.Format
