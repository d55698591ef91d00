/-
# ListOps.Main -- the program

`main` makes the plan for its arguments and carries it out on the real disk, the
way `Plan.perform` does on a model of one: actions in order, until one fails.
-/
import ListOps.CommandLine.Plan

namespace ListOps.CommandLine

set_option autoImplicit false

/-- The system's words for what went wrong, with its number for it. -/
def systemReason (error : IO.Error) : String :=
  let worded (code : UInt32) (details : String) : String :=
    details ++ " (os error " ++ toString code ++ ")"
  match error with
  | .alreadyExists _ code details => worded code details
  | .otherError code details => worded code details
  | .resourceBusy code details => worded code details
  | .resourceVanished code details => worded code details
  | .unsupportedOperation code details => worded code details
  | .hardwareFault code details => worded code details
  | .unsatisfiedConstraints code details => worded code details
  | .illegalOperation code details => worded code details
  | .protocolError code details => worded code details
  | .timeExpired code details => worded code details
  | .interrupted _ code details => worded code details
  | .noFileOrDirectory _ code details => worded code details
  | .invalidArgument _ code details => worded code details
  | .permissionDenied _ code details => worded code details
  | .resourceExhausted _ code details => worded code details
  | .inappropriateType _ code details => worded code details
  | .noSuchThing _ code details => worded code details
  | .unexpectedEof => "unexpected end of file"
  | .userError details => details

/-- Make a directory, given with those above it from the inside out; those that
are missing are made on the way.  Of what is there already,
`IO.FS.createDirAll` accepts a directory and refuses the rest. -/
def makeDirectories : List String → IO Unit
  | [] => return
  | path :: above => do
      match ← (IO.FS.createDir path).toBaseIO with
      | .ok () => return
      | .error (.noFileOrDirectory ..) => do
          makeDirectories above
          IO.FS.createDirAll path
      | .error (.alreadyExists ..) => IO.FS.createDirAll path
      | .error error => throw error

/-- Carry out one action on the real disk. -/
def runAction : Action → IO Unit
  | .makeDirectories path => makeDirectories (path :: Path.ancestors path)
  | .write path content => IO.FS.writeFile path content

/-- Carry out actions until one fails, and report. -/
def runActions (report : Report) : List Action → IO Report
  | [] => return report
  | action :: rest => do
      match ← (runAction action).toBaseIO with
      | .ok () => runActions report rest
      | .error error => return .failure (action.failure (systemReason error))

/-- Carry out the plan for a command line; the result is the exit code. -/
def run (arguments : List String) : IO UInt32 := do
  let plan := Plan.ofArguments arguments
  let report ← runActions plan.report plan.actions
  IO.print report.stdout
  IO.eprint report.stderr
  return UInt32.ofNat report.exit

end ListOps.CommandLine

def main (arguments : List String) : IO UInt32 :=
  ListOps.CommandLine.run arguments
