import Sidebar.Text.CodeRange

/-!
# Blank characters

The white space of all scripts, with the separators of the control range.
-/

namespace Sidebar.Text

/-- The code points of the blank characters, in increasing order. -/
def blanks : List CodeRange := [
  (0x9, 0xD), (0x1C, 0x20), (0x85, 0x85), (0xA0, 0xA0), (0x1680, 0x1680), (0x2000, 0x200A),
  (0x2028, 0x2029), (0x202F, 0x202F), (0x205F, 0x205F), (0x3000, 0x3000)]

/-- Whether a character is blank. -/
def isBlank (c : Char) : Bool := covers blanks c

/-- A text without the blanks at its ends. -/
def trim (text : List Char) : List Char :=
  ((text.dropWhile isBlank).reverse.dropWhile isBlank).reverse

end Sidebar.Text
