/-
# ListOps.CommandLine.Arguments -- options with and without values

Arguments are `--name value` or `--name=value` for an option and `--name` for a
switch, in any order and each at most once.  A value in an argument of its own
does not start with a dash, but may be a dash alone.  Nothing else is accepted,
except for one last `--`.  Reading ends at the first argument that is wrong or
asks for help.
-/
import ListOps.Text.Split

namespace ListOps.CommandLine

set_option autoImplicit false

/-- The names that a command knows. -/
structure Signature where
  /-- Options with a value. -/
  options : List String
  /-- Options whose value may not be empty. -/
  filled : List String
  switches : List String

/-- What has been given. -/
structure Given where
  values : List (String × String)
  switches : List String
deriving DecidableEq

namespace Given

def empty : Given := ⟨[], []⟩

def value? (given : Given) (option : String) : Option String :=
  given.values.lookup option

def isOn (given : Given) (switch : String) : Bool :=
  given.switches.contains switch

/-- Note a value, unless the option has one or may not have this one. -/
def withValue? (given : Given) (signature : Signature) (option value : String) : Option Given :=
  if (given.value? option).isSome || (value.isEmpty && signature.filled.contains option) then none
  else some { given with values := (option, value) :: given.values }

end Given

/-- What came of reading arguments. -/
inductive Reading
  | given (given : Given)
  | help
  | refused
deriving DecidableEq

/-- An argument that starts with two dashes: the name and the value after `=`. -/
def long? (argument : String) : Option (String × Option String) :=
  (Text.after? "--" argument).map fun rest =>
    match Text.cut? '=' rest with
    | some (name, value) => (name, some value)
    | none => (rest, none)

/-- Does the argument look like an option? -/
def isDashed (argument : String) : Bool :=
  argument != "-" && (Text.after? "-" argument).isSome

/-- Is it a group of one-letter switches whose first one is `letter`? -/
def startsGroup (letter : Char) (argument : String) : Bool :=
  ['-', letter].isPrefixOf argument.toList

/-- Read arguments, first to last. -/
def read (signature : Signature) (given : Given) : List String → Reading
  | [] => .given given
  | argument :: rest =>
      if argument = "--" then
        if rest.isEmpty then .given given else .refused
      else if startsGroup 'h' argument then .help
      else
        match long? argument with
        | none => .refused
        | some ("help", none) => .help
        | some (name, attached) =>
            if signature.options.contains name then
              match attached, rest with
              | some value, rest =>
                  match given.withValue? signature name value with
                  | some given => read signature given rest
                  | none => .refused
              | none, value :: rest =>
                  if isDashed value then .refused
                  else
                    match given.withValue? signature name value with
                    | some given => read signature given rest
                    | none => .refused
              | none, [] => .refused
            else if signature.switches.contains name && attached.isNone && !given.isOn name then
              read signature { given with switches := name :: given.switches } rest
            else .refused

example :
    read ⟨["pkg"], [], ["tests"]⟩ .empty ["--tests", "--pkg=-a=b"] =
      .given ⟨[("pkg", "-a=b")], ["tests"]⟩ ∧
    read ⟨["pkg"], [], ["tests"]⟩ .empty ["--pkg", "-a"] = .refused ∧
    read ⟨["pkg"], [], ["tests"]⟩ .empty ["--tests", "--tests"] = .refused := by
  decide +kernel

end ListOps.CommandLine
