/-
# ListOps.SourceFile -- a generated file

The file's text begins with a notice, its package and its imports.
`SourceFile.functionNames` reads the names of the declared functions off the
finished text, line by line.
-/
import ListOps.Code
import ListOps.Text.Split

namespace ListOps

set_option autoImplicit false

/-- A generated file. -/
structure SourceFile where
  text : String
deriving DecidableEq

namespace SourceFile

/-- The name of the function that `line` declares, if it declares one. -/
def declaredName? (line : String) : Option String :=
  (Text.after? "func " line >>= Text.cut? '(').map (·.1)

/-- The names of the declared functions, in order. -/
def functionNames (file : SourceFile) : List String :=
  (Text.lines file.text).filterMap declaredName?

def notice : String :=
  "// Code generated by 'fpgen'. DO NOT EDIT."

def importLine (path : String) : Code :=
  .line ("import \"" ++ path ++ "\"")

/-- Everything in front of the functions, with a blank line at its end. -/
def heading (package : String) (imports : List String) : String :=
  Code.text <| .line notice ++ .line ("package " ++ package) ++ imports.flatMap importLine ++ .blank

end SourceFile

end ListOps
