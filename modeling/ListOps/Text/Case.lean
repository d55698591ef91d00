/-
# ListOps.Text.Case -- lower case of a text

Lower case is taken character by character but for one: a capital sigma that
ends a word becomes the final sigma.  It ends a word if a cased character comes
before it and none after, where the case-ignorable characters in between are
looked through on both sides.  One flag carries the first half of the question
along; the other half looks ahead.
-/
import ListOps.Unicode.Cased
import ListOps.Unicode.LowerCase

namespace ListOps

set_option autoImplicit false

open Unicode

namespace Chars

/-- Is the first character that is not looked through a cased one? -/
def casedAhead : List Char → Bool
  | [] => false
  | c :: rest => if isCaseIgnorable c then casedAhead rest else isCased c

/-- The same question about what has been read, once `c` has been read too. -/
def casedBehind (before : Bool) (c : Char) : Bool :=
  if isCaseIgnorable c then before else isCased c

/-- The lower case of `c` between what was read and `rest`. -/
def lowerAt (before : Bool) (c : Char) (rest : List Char) : List Char :=
  if c = 'Σ' then
    if before && !casedAhead rest then ['ς'] else ['σ']
  else lowerChar c

def lowerFrom (before : Bool) : List Char → List Char
  | [] => []
  | c :: rest => lowerAt before c rest ++ lowerFrom (casedBehind before c) rest

/-- The lower case of a whole text. -/
def lower (cs : List Char) : List Char :=
  lowerFrom false cs

end Chars

/-- The lower case of `s`. -/
def Text.lower (s : String) : String :=
  String.ofList (Chars.lower s.toList)

@[simp] theorem Text.toList_lower (s : String) : (Text.lower s).toList = Chars.lower s.toList :=
  String.toList_ofList

example : Text.lower "ΟΔΟΣ Σ" = "οδος σ" := by decide +kernel

example : Text.lower "Straße K" = "straße k" := by decide +kernel

end ListOps
