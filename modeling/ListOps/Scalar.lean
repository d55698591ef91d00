/-
# ListOps.Scalar -- the built-in scalar types

Lists of scalars get their operations once and for all, so a declared type that
is one of them is treated apart.  `Recognition` says when a declared name counts
as a scalar: its spelling has to be one of `Scalar.all`, or, in the older and
laxer way, only has to stand somewhere in the listing of all spellings, so that
`t` and `in` count as well.
-/
import ListOps.Text.Case
import ListOps.Text.Split

namespace ListOps

set_option autoImplicit false

/-- A scalar type of the generated code. -/
inductive Scalar
  | int | int64 | int32 | int16 | int8
  | uint | uint64 | uint32 | uint16 | uint8
  | float64 | float32
  | string | bool
deriving DecidableEq

namespace Scalar

/-- Every scalar, in the order in which their operations are generated. -/
def all : List Scalar :=
  [int, int64, int32, int16, int8, uint, uint64, uint32, uint16, uint8, float64, float32,
   string, bool]

theorem mem_all (scalar : Scalar) : scalar ∈ all := by
  cases scalar <;> decide

/-- The type's name in generated code. -/
def spelling : Scalar → String
  | int => "int"
  | int64 => "int64"
  | int32 => "int32"
  | int16 => "int16"
  | int8 => "int8"
  | uint => "uint"
  | uint64 => "uint64"
  | uint32 => "uint32"
  | uint16 => "uint16"
  | uint8 => "uint8"
  | float64 => "float64"
  | float32 => "float32"
  | string => "string"
  | bool => "bool"

/-- The scalar that `s` names, up to case and surrounding white space. -/
def ofSpelling? (s : String) : Option Scalar :=
  all.find? fun scalar => scalar.spelling = Text.lower (Text.trim s)

/-- All spellings in one text. -/
def listing : String :=
  ", ".intercalate (all.map spelling)

end Scalar

/-- When a declared name counts as a scalar. -/
inductive Recognition
  /-- Its lower case is a scalar's spelling. -/
  | exact
  /-- Its lower case stands somewhere in `Scalar.listing`. -/
  | substring
deriving DecidableEq

namespace Recognition

/-- What a request that says nothing about it gets. -/
def standard : Recognition :=
  .exact

/-- Does `name` count as a scalar? -/
def accepts : Recognition → String → Bool
  | .exact, name => (Scalar.ofSpelling? name).isSome
  | .substring, name => Text.hasPart (Text.lower (Text.trim name)) Scalar.listing

end Recognition

end ListOps
