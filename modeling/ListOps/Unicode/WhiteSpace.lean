/-
# ListOps.Unicode.WhiteSpace -- the `White_Space` property

What trimming removes.  The zero-width space and the byte order mark look like
white space to some readers but do not have the property, and neither do the
four information separators below U+0020.
-/
import ListOps.Unicode.CodeSet

namespace ListOps.Unicode

set_option autoImplicit false

/-- The characters with the `White_Space` property. -/
def whiteSpace : CodeSet :=
  [(0x9, 0xD), (0x20, 0x20), (0x85, 0x85), (0xA0, 0xA0), (0x1680, 0x1680), (0x2000, 0x200A),
   (0x2028, 0x2029), (0x202F, 0x202F), (0x205F, 0x205F), (0x3000, 0x3000)]

/-- Does `c` have the `White_Space` property? -/
def isWhiteSpace (c : Char) : Bool :=
  whiteSpace.has c

example : whiteSpace.Ascending = true := by decide

example : whiteSpace.count = 25 := by decide

example : isWhiteSpace '\u0085' = true ∧ isWhiteSpace '\u200b' = false ∧
    isWhiteSpace '\x1c' = false := by decide

end ListOps.Unicode
