/-
# ListOps.CommandLine.Plan -- how a command is carried out

A plan lists what to do to the disk, in order, and what to report when all of
it succeeds; the first action that fails ends the plan with a report of its
own.  Only a destination calls for actions: the directory around it, if the
path mentions one, and then the file itself.  `Plan.performOn` carries a plan out
with what a `Storage` offers, and `Plan.perform` on a `Disk` as it is modelled.
-/
import ListOps.CommandLine.Invocation
import ListOps.Storage.Disk

namespace ListOps.CommandLine

set_option autoImplicit false

/-- How the program ends. -/
structure Report where
  exit : Nat
  stdout : String
  stderr : String
deriving DecidableEq

inductive Action
  /-- Make sure that there is a directory. -/
  | makeDirectories (path : String)
  /-- Make or replace a file. -/
  | write (path content : String)
deriving DecidableEq

namespace Action

/-- What is said of an action that failed. -/
def failure (action : Action) (reason : String) : String :=
  match action with
  | makeDirectories path =>
      "Unable to create destination directory " ++ path ++ ": " ++ reason ++ "\n"
  | write path _ => "Failed writing " ++ path ++ ": " ++ reason ++ "\n"

end Action

structure Plan where
  actions : List Action
  report : Report
deriving DecidableEq

namespace Report

def success (stdout : String) : Report := ⟨0, stdout, ""⟩

def failure (stderr : String) : Report := ⟨1, "", stderr⟩

/-- The arguments make no sense. -/
def misuse : Report := ⟨2, "", "Usage: fpgen <generate|basic> [OPTIONS]\n"⟩

end Report

namespace Plan

def done (report : Report) : Plan := ⟨[], report⟩

/-- Put a generated file where it is wanted: to standard output if there is no
destination. -/
def deliver (file : SourceFile) : Option String → Plan
  | none => done (.success file.text)
  | some path =>
      let around := (Path.directory? path).toList.map Action.makeDirectories
      ⟨around ++ [.write path file.text], .success ""⟩

/-- Say why nothing was generated, and `hint` at what would do. -/
def reject (error : GenerateError) (hint : String) : Plan :=
  done (.failure ("Code generation failed: " ++ error.message ++ "\n" ++ hint))

/-- The plan for a command: deliver the file that is generated for it. -/
def ofCommand (command : Command) : Plan :=
  match command.generated with
  | .ok file => deliver file command.destination?
  | .error error => reject error command.hint

/-- The plan for what a command line comes to. -/
def ofInvocation : Invocation → Plan
  | .command command => ofCommand command
  | .version => done (.success "fpgen 0.1.0\n")
  | .help => done (.success "Usage: fpgen <generate|basic> [OPTIONS]\n")
  | .refused => done .misuse

/-- The plan for a command line. -/
def ofArguments (arguments : List String) : Plan :=
  ofInvocation (.ofArguments arguments)

end Plan

/-! ## Carrying plans out -/

/-- What plans are carried out with: each change says what the disk is like
afterwards, and why it failed if it did. -/
structure Storage where
  /-- Make a directory and those that are missing above it. -/
  makeDirectories : Disk → String → Disk × Except String Unit
  /-- Make a file, or replace the content of the one that is there. -/
  write : Disk → String → String → Disk × Except String Unit

namespace Storage

/-- The storage that a disk is. -/
def modelled : Storage where
  makeDirectories disk path :=
    let (after, result) := disk.makeDirectories (path :: Path.ancestors path)
    (after, result.mapError StorageError.message)
  write disk path content :=
    match disk.write path content with
    | .ok written => (written, .ok ())
    | .error error => (disk, .error error.message)

end Storage

namespace Action

/-- Carry out one action. -/
def perform (storage : Storage) (disk : Disk) : Action → Disk × Except String Unit
  | makeDirectories path => storage.makeDirectories disk path
  | write path content => storage.write disk path content

end Action

namespace Plan

/-- Carry out actions until one fails, and report. -/
def performAll (storage : Storage) (report : Report) : List Action → Disk → Report × Disk
  | [], disk => (report, disk)
  | action :: rest, disk =>
      match action.perform storage disk with
      | (disk, .ok ()) => performAll storage report rest disk
      | (disk, .error reason) => (.failure (action.failure reason), disk)

def performOn (storage : Storage) (plan : Plan) (disk : Disk) : Report × Disk :=
  performAll storage plan.report plan.actions disk

def perform (plan : Plan) (disk : Disk) : Report × Disk :=
  plan.performOn .modelled disk

end Plan

end ListOps.CommandLine
