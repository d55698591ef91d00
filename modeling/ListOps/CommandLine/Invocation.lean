/-
# ListOps.CommandLine.Invocation -- how a command is asked for

The first argument says which command it is, and the others are its options.  This is
how the program is run.  What a command does is told by `Plan.ofCommand`, for every
command alike, however it was asked for.
-/
import ListOps.CommandLine.Arguments
import ListOps.CommandLine.Command

namespace ListOps.CommandLine

set_option autoImplicit false

/-- What a whole command line comes to. -/
inductive Invocation
  | command (command : Command)
  | version
  | help
  | refused
deriving DecidableEq

namespace Command

def generateSignature : Signature where
  options := ["pkg", "type", "imports", "destination"]
  filled := ["destination"]
  switches := ["legacy-basic-match"]

def basicSignature : Signature where
  options := ["pkg", "destination"]
  filled := ["destination"]
  switches := ["tests"]

/-- The package and the types have to be given. -/
def generate? (given : Given) : Option Command := do
  let package ← given.value? "pkg"
  let types ← given.value? "type"
  return .generate package types (given.value? "imports") (given.isOn "legacy-basic-match")
    (given.value? "destination")

/-- The package has to be given. -/
def basic? (given : Given) : Option Command := do
  let package ← given.value? "pkg"
  return .basic package (given.isOn "tests") (given.value? "destination")

end Command

namespace Invocation

/-- Read the arguments of a command. -/
def ofReading (build : Given → Option Command) : Reading → Invocation
  | .given given => (build given).elim refused command
  | .help => help
  | .refused => refused

/-- Read a command line, without the name of the program.  Its first argument
decides. -/
def ofArguments : List String → Invocation
  | "generate" :: rest => ofReading Command.generate? (read Command.generateSignature .empty rest)
  | "basic" :: rest => ofReading Command.basic? (read Command.basicSignature .empty rest)
  | "--version" :: _ => version
  | "--help" :: _ => help
  | ["help"] => help
  | ["help", topic] => if ["generate", "basic", "help"].contains topic then help else refused
  | argument :: _ =>
      if startsGroup 'V' argument then version
      else if startsGroup 'h' argument then help
      else refused
  | [] => refused

end Invocation

end ListOps.CommandLine
