/-
# ListOps.Text.Split -- pieces of a text

`Chars.splitOn` cuts at every separator and keeps empty pieces, so that putting
the separator back between the pieces gives the text again.  Flag values are
read with it (`Text.listed`), and so are lines.
-/
import ListOps.Text.Trim

namespace ListOps

set_option autoImplicit false

namespace Chars

/-- The pieces from here on, where `piece` holds the open one, last character
first. -/
def splitFrom (separator : Char) (piece : List Char) : List Char → List (List Char)
  | [] => [piece.reverse]
  | c :: rest =>
      if c = separator then piece.reverse :: splitFrom separator [] rest
      else splitFrom separator (c :: piece) rest

/-- The pieces between separators: always one more than there are separators. -/
def splitOn (separator : Char) (cs : List Char) : List (List Char) :=
  splitFrom separator [] cs

/-- What follows the last separator, or everything if there is none. -/
def afterLast (separator : Char) (cs : List Char) : List Char :=
  (cs.reverse.takeWhile (· != separator)).reverse

/-- What comes before and after the first separator, if there is one. -/
def cut? (separator : Char) : List Char → Option (List Char × List Char)
  | [] => none
  | c :: rest =>
      if c = separator then some ([], rest)
      else (cut? separator rest).map fun (head, tail) => (c :: head, tail)

/-- What follows `start`, if the text starts with it. -/
def after? : (start cs : List Char) → Option (List Char)
  | [], cs => some cs
  | s :: start, c :: cs => if s = c then after? start cs else none
  | _ :: _, [] => none

/-- The line without a carriage return at its end. -/
def dropReturn (line : List Char) : List Char :=
  if line.getLast? = some '\r' then line.dropLast else line

/-- The lines that the pieces between line feeds are.  A piece that a line feed ends
may have a carriage return in front of it; an empty last piece is no line. -/
def linesOfPieces : List (List Char) → List (List Char)
  | [] => []
  | [last] => if last.isEmpty then [] else [last]
  | piece :: rest => dropReturn piece :: linesOfPieces rest

/-- Does `part` stand anywhere in the text? -/
def hasPart (part : List Char) : List Char → Bool
  | [] => part.isEmpty
  | c :: rest => part.isPrefixOf (c :: rest) || hasPart part rest

end Chars

namespace Text

/-- The lines of a text, ended by line feeds, each with or without a carriage return.
A line feed at the very end opens no further line. -/
def lines (s : String) : List String :=
  (Chars.linesOfPieces (Chars.splitOn '\n' s.toList)).map String.ofList

/-- The entries of a comma-separated list, trimmed; blank entries are no
entries. -/
def listed (s : String) : List String :=
  nonBlank ((Chars.splitOn ',' s.toList).map String.ofList)

/-- What follows the last `separator`, or all of `s` if there is none. -/
def afterLast (separator : Char) (s : String) : String :=
  String.ofList (Chars.afterLast separator s.toList)

/-- What comes before and after the first `separator`, if there is one. -/
def cut? (separator : Char) (s : String) : Option (String × String) :=
  (Chars.cut? separator s.toList).map fun (head, tail) => (String.ofList head, String.ofList tail)

/-- What follows `start`, if `s` starts with it. -/
def after? (start s : String) : Option String :=
  (Chars.after? start.toList s.toList).map String.ofList

/-- Does `part` stand anywhere in `s`?  The empty text stands everywhere. -/
def hasPart (part s : String) : Bool :=
  Chars.hasPart part.toList s.toList

end Text

theorem Chars.splitFrom_ne_nil (separator : Char) (piece rest : List Char) :
    Chars.splitFrom separator piece rest ≠ [] := by
  induction rest generalizing piece with
  | nil => simp [splitFrom]
  | cons c rest ih => unfold splitFrom; split <;> simp [ih]

/-- Putting the separator back between the pieces gives the text again. -/
theorem Chars.intercalate_splitOn (separator : Char) (cs : List Char) :
    [separator].intercalate (Chars.splitOn separator cs) = cs := by
  have opened (piece rest : List Char) :
      [separator].intercalate (Chars.splitFrom separator piece rest) = piece.reverse ++ rest := by
    induction rest generalizing piece with
    | nil => simp [splitFrom]
    | cons c rest ih =>
      unfold splitFrom
      split
      · rename_i same
        obtain ⟨head, tail, eq⟩ :=
          List.exists_cons_of_ne_nil (splitFrom_ne_nil separator [] rest)
        have joined := ih []
        rw [eq] at joined ⊢
        simp_all [List.intercalate]
      · rw [ih]; simp
  exact opened [] cs

theorem Chars.hasPart_iff (part cs : List Char) : Chars.hasPart part cs = true ↔ part <:+: cs := by
  induction cs with
  | nil => simp [hasPart]
  | cons c rest ih => simp [hasPart, ih, List.infix_cons_iff]

@[simp] theorem Text.toList_afterLast (separator : Char) (s : String) :
    (Text.afterLast separator s).toList = Chars.afterLast separator s.toList :=
  String.toList_ofList

example : Text.listed " a, ,b b,," = ["a", "b b"] := by decide +kernel

example : Text.lines "a\n\nb\r\n" = ["a", "", "b"] ∧ Text.lines "\ra\n\r" = ["\ra", "\r"] := by
  decide +kernel

end ListOps
