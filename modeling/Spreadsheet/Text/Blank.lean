/-! White space of typed text: the ASCII controls from tab to carriage return, the Unicode space
separators, the line and paragraph separators, and the byte order mark. -/
namespace Spreadsheet.Text

/-- White space. The zero-width space U+200B and the vowel separator U+180E are not. -/
def isBlank (c : Char) : Bool :=
  let code := c.toNat
  (9 ≤ code && code ≤ 13) || code == 0x20 || code == 0xA0 || code == 0x1680 ||
    (0x2000 ≤ code && code ≤ 0x200A) || code == 0x2028 || code == 0x2029 || code == 0x202F ||
    code == 0x205F || code == 0x3000 || code == 0xFEFF

theorem isBlank_of_isWhitespace {c : Char} (white : c.isWhitespace) : isBlank c := by
  simp [Char.isWhitespace] at white
  rcases white with ((rfl | rfl) | rfl) | rfl <;> decide

/-- Characters that end a line. -/
def isLineBreak (c : Char) : Bool :=
  c == '\n' || c == '\r' || c.toNat == 0x2028 || c.toNat == 0x2029

def trimLeft (text : List Char) : List Char := text.dropWhile isBlank

def trim (text : List Char) : List Char := (trimLeft (trimLeft text).reverse).reverse

end Spreadsheet.Text
