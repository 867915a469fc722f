import RegisterTrace.Text.Ranges

/-!
# Blank characters

The blank characters are those with the property White_Space.  Trimming takes them off both ends
of a text, and the patterns of definition lines let them stand between their parts.
-/

namespace RegisterTrace

/-- The characters with the property White_Space. -/
def blankRanges : CharacterRanges :=
  [(0x0009, 0x000D), (0x0020, 0x0020), (0x0085, 0x0085), (0x00A0, 0x00A0), (0x1680, 0x1680),
   (0x2000, 0x200A), (0x2028, 0x2029), (0x202F, 0x202F), (0x205F, 0x205F), (0x3000, 0x3000)]

/-- Whether a character is blank. -/
def isBlank (character : Char) : Bool :=
  blankRanges.contains character

/-- A text without the blanks it starts with. -/
def dropBlanks (text : List Char) : List Char :=
  text.dropWhile isBlank

/-- A text without the blanks at its two ends. -/
def trimBlanks (text : List Char) : List Char :=
  (dropBlanks (dropBlanks text).reverse).reverse

end RegisterTrace
