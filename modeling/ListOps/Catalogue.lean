/-
# ListOps.Catalogue -- every template, in the order of generation
-/
import ListOps.Catalogue.Pairs
import ListOps.Catalogue.Single
import ListOps.Catalogue.Tests

namespace ListOps.Catalogue

set_option autoImplicit false

/-- What is generated for each type that is no scalar, and for each scalar of
the basic catalogue. -/
def single : List Template :=
  Single.all.map (Operation.template .single)

/-- What is generated for each ordered pair of an input and an output type. -/
def conversion : List Template :=
  Conversion.all.map (Operation.template .conversion)

/-- What is generated for each ordered pair of a key and a value type. -/
def combination : List Template :=
  Combination.all.map (Operation.template .combination)

def numberTest : Template :=
  ⟨"drop-last-test", .test, (Tests.dropLast Tests.numberSamples).text⟩

def boolTest : Template :=
  ⟨"drop-last-bool-test", .test, (Tests.dropLast Tests.boolSamples).text⟩

def stringTest : Template :=
  ⟨"drop-last-str-test", .test, (Tests.dropLast Tests.stringSamples).text⟩

/-- The test whose literals fit a scalar. -/
def testFor : Scalar → Template
  | .bool => boolTest
  | .string => stringTest
  | _ => numberTest

def all : List Template :=
  single ++ conversion ++ combination ++ [numberTest, boolTest, stringTest]

/-- The template called `name`. -/
def find? (name : String) : Option Template :=
  all.find? fun template => template.name = name

end ListOps.Catalogue
