import SourceOutline.Text.Range

set_option autoImplicit false

/-! # Blank characters

The characters that count as white space when text is trimmed and where the grammar of a
definition asks for space: the ASCII blanks with the four information separators, the next-line
control, and the Unicode spaces and line separators. The zero-width space and the byte order mark
are not among them. -/

namespace SourceOutline

/-- The blank characters, as sorted ranges. -/
def blankRanges : CodeRanges :=
  [(0x9, 0xD), (0x1C, 0x20), (0x85, 0x85), (0xA0, 0xA0), (0x1680, 0x1680), (0x2000, 0x200A),
   (0x2028, 0x2029), (0x202F, 0x202F), (0x205F, 0x205F), (0x3000, 0x3000)]

/-- Whether `c` is white space. -/
def isBlank (c : Char) : Bool :=
  blankRanges.has c.toNat

/-- Drop the blanks on the left. -/
def trimLeft (text : List Char) : List Char :=
  text.dropWhile isBlank

/-- Drop the blanks on the right. -/
def trimRight (text : List Char) : List Char :=
  (text.reverse.dropWhile isBlank).reverse

/-- Drop the blanks on both sides. -/
def trim (text : List Char) : List Char :=
  trimRight (trimLeft text)

end SourceOutline
