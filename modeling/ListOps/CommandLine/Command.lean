/-
# ListOps.CommandLine.Command -- what a command line asks for

A command has its options as they were given: nothing is trimmed or checked before
something is generated for it.
-/
import ListOps.SourceFile.Generation

namespace ListOps.CommandLine

set_option autoImplicit false

/-- A command, ready to be carried out. -/
inductive Command
  /-- Generate the operations for declared types; `lax` recognises scalars in the laxer
  way. -/
  | generate (package types : String) (imports : Option String) (lax : Bool)
      (destination : Option String)
  /-- Generate the operations for scalars, or their tests. -/
  | basic (package : String) (tests : Bool) (destination : Option String)
deriving DecidableEq

namespace Command

/-- Where the generated file is to be stored, if anywhere. -/
def destination? : Command → Option String
  | generate _ _ _ _ destination => destination
  | basic _ _ destination => destination

/-- The same command, with its file printed. -/
def printing : Command → Command
  | generate package types imports lax _ => generate package types imports lax none
  | basic package tests _ => basic package tests none

/-- The request that the options of `generate` make. -/
def request (package types : String) (imports : Option String) (lax : Bool) : Request :=
  (Request.ofFlags package types imports).withRecognition (if lax then .substring else .exact)

/-- The file that is generated for a command, or why there is none. -/
def generated : Command → Except GenerateError SourceFile
  | generate package types imports lax _ => (request package types imports lax).generate
  | basic package tests _ => if tests then Scalar.generateTests package else Scalar.generate package

/-- What to say when nothing is generated, besides why. -/
def hint : Command → String
  | generate .. =>
      "Usage: fpgen generate --pkg employee --type \"Employee, Teacher\" --destination fp.go\n"
  | basic .. => ""

@[simp] theorem generated_printing (command : Command) :
    command.printing.generated = command.generated := by
  cases command <;> rfl

@[simp] theorem destination?_printing (command : Command) :
    command.printing.destination? = none := by
  cases command <;> rfl

end Command

end ListOps.CommandLine
