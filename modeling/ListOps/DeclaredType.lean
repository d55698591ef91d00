/-
# ListOps.DeclaredType -- a type that operations are generated for

A declared type is known by the name it was declared with.  Scalars are written
in lower case in the generated code, whatever their declared spelling; other
types keep theirs.
-/
import ListOps.FirstOccurrences
import ListOps.Name.Suffix
import ListOps.Scalar

namespace ListOps

set_option autoImplicit false

/-- A declared name without surrounding white space, and whether it counts as
a scalar. -/
structure DeclaredType where
  name : String
  isScalar : Bool
deriving DecidableEq

namespace DeclaredType

/-- Read one declared name. -/
def ofName (recognition : Recognition) (name : String) : DeclaredType where
  name := Text.trim name
  isScalar := recognition.accepts (Text.trim name)

/-- The type's name where generated code speaks of its values. -/
def valueType (type : DeclaredType) : String :=
  if type.isScalar then Text.lower type.name else type.name

/-- The type's share in the name of a generated function. -/
def suffix (type : DeclaredType) : String :=
  Name.suffix type.valueType

/-- Read a list of declared names: each type once, at its first place and in
its first spelling, and blank names left out. -/
def ofNames (recognition : Recognition) (names : List String) : List DeclaredType :=
  (Text.distinctIgnoringCase names |>.filter (!·.isEmpty)).map (ofName recognition)

example :
    ofNames .exact ["Employee", " ", "INT", " EMPLOYEE"] = [⟨"Employee", false⟩, ⟨"INT", true⟩] := by
  decide

end DeclaredType

end ListOps
