/-
# ListOps.Name.Suffix -- how a type is named inside a function's name

`MapEmployeeStr` converts employees to strings: each type contributes the last
part of its qualified name, every word capitalised, and the unqualified
`String` is shortened.
-/
import ListOps.Name.Identifier
import ListOps.Text.Split
import ListOps.Unicode.UpperCase

namespace ListOps.Name

set_option autoImplicit false

open Unicode

/-- Put the first character of each word in upper case; `start` says whether
the next character opens a word.  Whatever cannot stand in a word ends it. -/
def capitalizeFrom (start : Bool) : List Char → List Char
  | [] => []
  | c :: rest => (if start then upperChar c else [c]) ++ capitalizeFrom (!isWordChar c) rest

/-- `s` with the first character of each word in upper case. -/
def capitalize (s : String) : String :=
  String.ofList (capitalizeFrom true s.toList)

@[simp] theorem toList_capitalize (s : String) :
    (capitalize s).toList = capitalizeFrom true s.toList :=
  String.toList_ofList

/-- The part of a qualified name behind its last dot, which is always usable
inside an identifier; an unqualified name stays as it is. -/
def unqualified (s : String) : String :=
  Text.afterLast '.' s

/-- How the type called `s` appears in a function's name. -/
def suffix (s : String) : String :=
  let titled := capitalize s
  if titled = "String" then "Str" else unqualified titled

example :
    suffix "string" = "Str" ∧ suffix "pkg.string" = "String" ∧ suffix "a.b.name" = "Name" := by
  decide +kernel

end ListOps.Name
