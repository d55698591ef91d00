/-
# ListOps.Text.Trim -- white space removed at both ends

Functions on text are written on lists of characters, in the namespace `Chars`,
and lifted to `String` in the namespace `Text`; `toList_trim` and its like say
that the lifting is all there is.
-/
import ListOps.Unicode.WhiteSpace

namespace ListOps

set_option autoImplicit false

open Unicode

/-- Drop white space in front. -/
def Chars.trimStart (cs : List Char) : List Char :=
  cs.dropWhile isWhiteSpace

/-- Drop white space in front and behind; what stands between stays. -/
def Chars.trim (cs : List Char) : List Char :=
  (Chars.trimStart (Chars.trimStart cs).reverse).reverse

/-- `s` without the white space at its ends. -/
def Text.trim (s : String) : String :=
  String.ofList (Chars.trim s.toList)

/-- The entries that are not blank, trimmed. -/
def Text.nonBlank (entries : List String) : List String :=
  (entries.map Text.trim).filter (!·.isEmpty)

@[simp] theorem Text.toList_trim (s : String) : (Text.trim s).toList = Chars.trim s.toList :=
  String.toList_ofList

end ListOps
