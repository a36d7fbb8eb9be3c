import Spreadsheet.Text.LetterCase

/-! The colours that a format code can name: fifty-six by number, eight of these by a word. -/
namespace Spreadsheet.Palette

/-- Red, green and blue in hexadecimal, from colour 1 on. -/
def colors : List String := [
  "#000000", "#FFFFFF", "#FF0000", "#00FF00", "#0000FF", "#FFFF00", "#FF00FF", "#00FFFF",
  "#800000", "#008000", "#000080", "#808000", "#800080", "#008080", "#C0C0C0", "#808080",
  "#9999FF", "#993366", "#FFFFCC", "#CCFFFF", "#660066", "#FF8080", "#0066CC", "#CCCCFF",
  "#000080", "#FF00FF", "#FFFF00", "#00FFFF", "#800080", "#800000", "#008080", "#0000FF",
  "#00CCFF", "#CCFFFF", "#CCFFCC", "#FFFF99", "#99CCFF", "#FF99CC", "#CC99FF", "#FFCC99",
  "#3366FF", "#33CCCC", "#99CC00", "#FFCC00", "#FF9900", "#FF6600", "#666699", "#969696",
  "#003366", "#339966", "#003300", "#333300", "#993300", "#993366", "#333399", "#333333"]

def named : List (String × Nat) :=
  [("black", 1), ("white", 2), ("red", 3), ("green", 4), ("blue", 5), ("yellow", 6), ("magenta", 7), ("cyan", 8)]

/-- Colours are numbered from 1. -/
def color? (index : Nat) : Option String := if index = 0 then none else colors[index - 1]?

/-- The colour that a word names in any case. -/
def namedColor? (name : List Char) : Option String :=
  (named.lookup (String.ofList (Text.lower name))).bind color?

end Spreadsheet.Palette
