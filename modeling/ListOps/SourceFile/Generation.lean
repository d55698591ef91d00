/-
# ListOps.SourceFile.Generation -- files generated for a request

`Request.generate` writes the operations for the declared types of a request;
`Scalar.generate` and `Scalar.generateTests` write what does not depend on
declared types.  All three refuse a package that is no identifier, before
anything else is looked at.
-/
import ListOps.Declarations
import ListOps.Request
import ListOps.ScalarOperations
import ListOps.SourceFile

namespace ListOps

set_option autoImplicit false

/-- Why nothing was generated. -/
inductive GenerateError
  | request (fault : RequestFault)
  | template (error : TemplateError)
deriving DecidableEq

namespace GenerateError

def message : GenerateError → String
  | request fault => fault.message
  | template error => error.message

end GenerateError

namespace Request

/-- The declarations of a request, with the package as it is written. -/
def declarations (request : Request) : Declarations where
  package := Text.trim request.package
  types := request.declaredTypes

/-- The operations on single types, the conversions and the combinations.  Only
parallel maps need `sync`, and there is one exactly if one of the first two
parts is not empty. -/
def generate (request : Request) : Except GenerateError SourceFile := do
  request.validate.mapError GenerateError.request
  let declarations := request.declarations
  let single ← declarations.single.mapError GenerateError.template
  let conversions ← declarations.conversions.mapError GenerateError.template
  let combinations ← declarations.combinations.mapError GenerateError.template
  let own := if single.isEmpty && conversions.isEmpty then [] else ["sync"]
  let heading := SourceFile.heading declarations.package (own ++ Text.distinct request.imports)
  return ⟨heading ++ single ++ "\n" ++ conversions ++ "\n" ++ combinations⟩

end Request

namespace Scalar

/-- The operations on single types, for every scalar. -/
def generate (package : String) : Except GenerateError SourceFile := do
  let package ← (validPackage package).mapError GenerateError.request
  let operations ← (operations package).mapError GenerateError.template
  return ⟨SourceFile.heading package ["sync"] ++ operations⟩

/-- The tests that go with `Scalar.generate`. -/
def generateTests (package : String) : Except GenerateError SourceFile := do
  let package ← (validPackage package).mapError GenerateError.request
  let tests ← operationTests.mapError GenerateError.template
  return ⟨SourceFile.heading package ["reflect", "testing"] ++ tests⟩

end Scalar

end ListOps
