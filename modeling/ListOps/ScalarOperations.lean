/-
# ListOps.ScalarOperations -- the operations for the scalar types

Scalars are generated for all at once.  Their operations carry their own
suffixes (`MapInt`, `EveryStr`), and so do the tests of these operations.
-/
import ListOps.Catalogue
import ListOps.Name.Suffix
import ListOps.Template.Use

namespace ListOps.Scalar

set_option autoImplicit false

/-- The scalar's share in the name of a function. -/
def suffix (scalar : Scalar) : String :=
  Name.suffix scalar.spelling

def operationBindings (package : String) (scalar : Scalar) : Bindings :=
  .ofList [(.package, package), (.elementType, scalar.spelling), (.nameSuffix, scalar.suffix)]

/-- The operations on lists of one type, for every scalar. -/
def operations (package : String) : Except TemplateError String :=
  TemplateUse.render <| TemplateUse.every Catalogue.single <| all.map (operationBindings package)

/-- The test for one scalar. -/
def testUse (scalar : Scalar) : TemplateUse where
  template := Catalogue.testFor scalar
  bindings := .ofList [(.elementType, scalar.spelling), (.testSuffix, scalar.suffix)]

/-- A test for every scalar. -/
def operationTests : Except TemplateError String :=
  TemplateUse.render <| all.map testUse

end ListOps.Scalar
