/-
# ListOps.Request -- what is asked for

A request names a package, the types that operations are generated for and the
paths that the generated file has to import for them.  It is built from lists or
from comma-separated flag values; either way names are trimmed, and they are
trimmed again wherever they are read, since the fields can also be set freely.
-/
import ListOps.DeclaredType

namespace ListOps

set_option autoImplicit false

structure Request where
  package : String
  types : List String
  imports : List String
  recognition : Recognition
deriving DecidableEq

/-- Why a request is refused. -/
inductive RequestFault
  | emptyPackage
  /-- The package, trimmed, is no identifier. -/
  | invalidPackage (package : String)
  | emptyTypeList
deriving DecidableEq

namespace RequestFault

def message : RequestFault → String
  | emptyPackage => "package name is empty"
  | invalidPackage package => "package name `" ++ package ++ "` is not a valid identifier"
  | emptyTypeList => "type list is empty"

end RequestFault

/-- The package as it is written, if it can be. -/
def validPackage (package : String) : Except RequestFault String :=
  let trimmed := Text.trim package
  if trimmed.isEmpty then .error .emptyPackage
  else if Name.isIdentifier trimmed then .ok trimmed
  else .error (.invalidPackage trimmed)

namespace Request

/-- A request without imports, with names as given in a list. -/
def ofTypes (package : String) (types : List String) : Request where
  package := Text.trim package
  types := types.map Text.trim
  imports := []
  recognition := .standard

/-- Replace the import paths; blank ones are dropped. -/
def withImports (request : Request) (imports : List String) : Request :=
  { request with imports := Text.nonBlank imports }

def withRecognition (request : Request) (recognition : Recognition) : Request :=
  { request with recognition }

/-- A request with its lists as comma-separated texts. -/
def ofFlags (package types : String) (imports : Option String) : Request :=
  let request := ofTypes package (Text.listed types)
  match imports with
  | some imports => request.withImports (Text.listed imports)
  | none => request

/-- The declared types, each once. -/
def declaredTypes (request : Request) : List DeclaredType :=
  DeclaredType.ofNames request.recognition request.types

/-- The first thing that is wrong with a request, if anything is. -/
def validate (request : Request) : Except RequestFault Unit := do
  let _ ← validPackage request.package
  if request.declaredTypes.isEmpty then throw .emptyTypeList

end Request

end ListOps
