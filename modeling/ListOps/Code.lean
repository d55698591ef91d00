/-
# ListOps.Code -- indented lines of generated code

Code is a list of lines, each with its depth; a block indents what it holds by
one.  Depth is written as tabs, but a blank line is written without any.
-/

namespace ListOps

set_option autoImplicit false

/-- A line of code and how deep it is indented. -/
structure Line where
  depth : Nat
  text : String
deriving DecidableEq

abbrev Code := List Line

namespace Line

def deeper (line : Line) : Line where
  depth := line.depth + 1
  text := line.text

def print (line : Line) : String :=
  (if line.text = "" then "" else String.ofList (List.replicate line.depth '\t')) ++
    line.text ++ "\n"

end Line

namespace Code

/-- A line at the depth of its surroundings. -/
def line (text : String) : Code :=
  [⟨0, text⟩]

def blank : Code :=
  line ""

/-- Parts one after another, all one level deeper. -/
def inner (parts : List Code) : Code :=
  parts.flatten.map Line.deeper

/-- A block, with `tail` behind its closing brace. -/
def blockThen (head : String) (parts : List Code) (tail : String) : Code :=
  line (head ++ " \x7b") ++ inner parts ++ line ("\x7d" ++ tail)

def block (head : String) (parts : List Code) : Code :=
  blockThen head parts ""

/-- Two blocks of which the second takes over where the first one closes. -/
def blockElse (head : String) (parts : List Code) (head' : String) (parts' : List Code) : Code :=
  line (head ++ " \x7b") ++ inner parts ++ line ("\x7d else " ++ head' ++ " \x7b") ++
    inner parts' ++ line "\x7d"

/-- The code as text; every line is ended. -/
def text (code : Code) : String :=
  String.join (code.map Line.print)

end Code

example : Code.text (.block "if ok" [.line "a()", .blank, .block "for" [.line "b()"]]) =
    "if ok \x7b\n\ta()\n\n\tfor \x7b\n\t\tb()\n\t\x7d\n\x7d\n" := by
  decide +kernel

end ListOps
