/-
# ListOps.Template.Placeholder -- what a template may leave open

A template leaves names and types open under fixed upper-case names.  Which of
them it may use depends on its family, that is, on what its operations are
generated for: one type, a pair of types, or a scalar under test.
-/

namespace ListOps

set_option autoImplicit false

inductive Placeholder
  /-- The package of the generated file. -/
  | package
  /-- The element type of a list. -/
  | elementType
  /-- What an operation on one type appends to its name; empty for the
  package's own type. -/
  | nameSuffix
  | inputSuffix
  | outputSuffix
  | inputType
  | outputType
  | firstSuffix
  | secondSuffix
  | firstType
  | secondType
  /-- What a test appends to its name. -/
  | testSuffix
deriving DecidableEq

namespace Placeholder

def all : List Placeholder :=
  [package, elementType, nameSuffix, inputSuffix, outputSuffix, inputType, outputType,
   firstSuffix, secondSuffix, firstType, secondType, testSuffix]

theorem mem_all (placeholder : Placeholder) : placeholder ∈ all := by
  cases placeholder <;> decide

/-- The name that stands between angle brackets in a template's body. -/
def name : Placeholder → String
  | package => "PACKAGE"
  | elementType => "TYPE"
  | nameSuffix => "CONDITIONAL_TYPE"
  | inputSuffix => "FINPUT_TYPE"
  | outputSuffix => "FOUTPUT_TYPE"
  | inputType => "INPUT_TYPE"
  | outputType => "OUTPUT_TYPE"
  | firstSuffix => "FINPUT_TYPE1"
  | secondSuffix => "FINPUT_TYPE2"
  | firstType => "INPUT_TYPE1"
  | secondType => "INPUT_TYPE2"
  | testSuffix => "FTYPE"

def ofName? (name : String) : Option Placeholder :=
  all.find? fun placeholder => placeholder.name = name

theorem ofName?_name (placeholder : Placeholder) : ofName? placeholder.name = some placeholder := by
  cases placeholder <;> decide +kernel

theorem name_of_ofName? {text : String} {placeholder : Placeholder}
    (h : ofName? text = some placeholder) : placeholder.name = text := by
  simpa using List.find?_some h

end Placeholder

/-- What the operations of a template are generated for. -/
inductive Family
  /-- One type that is no scalar. -/
  | single
  /-- An input type and a different output type. -/
  | conversion
  /-- A key type and a value type, equal or not. -/
  | combination
  /-- A scalar whose operations are tested. -/
  | test
deriving DecidableEq

namespace Family

def all : List Family :=
  [single, conversion, combination, test]

/-- How the family is called in messages. -/
def description : Family → String
  | single => "single-type"
  | conversion => "pairwise input/output"
  | combination => "pairwise combiner"
  | test => "test"

/-- The placeholders that the templates of a family may use. -/
def schema : Family → List Placeholder
  | single => [.package, .elementType, .nameSuffix]
  | conversion => [.inputSuffix, .outputSuffix, .inputType, .outputType]
  | combination => [.firstSuffix, .secondSuffix, .firstType, .secondType]
  | test => [.elementType, .testSuffix]

def allows (family : Family) (placeholder : Placeholder) : Bool :=
  family.schema.contains placeholder

end Family

end ListOps
