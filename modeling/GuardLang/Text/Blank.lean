import GuardLang.Text
import GuardLang.Text.Ranges

/-!
# Blank characters

The characters that separate tokens: the whitespace and line separators of
Unicode together with the four information separators.  Neither the zero-width
space nor the byte order mark is blank.
-/

namespace GuardLang.Text

/-- The code points of the blank characters. -/
def blankRanges : Ranges :=
  [(0x9, 0xd), (0x1c, 0x20), (0x85, 0x85), (0xa0, 0xa0), (0x1680, 0x1680), (0x2000, 0x200a),
   (0x2028, 0x2029), (0x202f, 0x202f), (0x205f, 0x205f), (0x3000, 0x3000)]

/-- Whether a character is blank. -/
def isBlank (c : Char) : Bool := blankRanges.contains c.toNat

/-- A text without its blank characters. -/
def withoutBlanks (text : Text) : Text := text.filter fun c => !isBlank c

end GuardLang.Text
