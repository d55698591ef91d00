/-
# ListOps.Declarations -- the operations for declared types

Each family of templates is used once per type, or once per ordered pair of
types, that needs it.  The uses are listed first and rendered then; the package
decides names only, through the types called like it.

An operation on one type takes the suffix of its name from a name carried
through the list: the last type so far that is not called like the package.  So
the package's own type gets the bare operation names if it comes first, and the
names of the type before it otherwise.
-/
import ListOps.Catalogue
import ListOps.DeclaredType
import ListOps.Template.Use

namespace ListOps

set_option autoImplicit false

/-- Is a type called like the package, up to case? -/
def namesPackage (package name : String) : Bool :=
  Text.lower name == Text.lower (Text.trim package)

/-- The carried name after one more type. -/
def carry (package carried : String) (type : DeclaredType) : String :=
  if namesPackage package type.name then carried else type.name

/-- Every type with the name that is carried when its turn comes; `carried` is
the one before the first. -/
def withCarried (package carried : String) : List DeclaredType → List (DeclaredType × String)
  | [] => []
  | type :: rest =>
      let carried := carry package carried type
      (type, carried) :: withCarried package carried rest

example :
    (withCarried "pkg" "" [⟨"Pkg", false⟩, ⟨"int", true⟩, ⟨"a.B", false⟩, ⟨"PKG", false⟩]).map
      (·.2) = ["", "int", "a.B", "a.B"] := by
  decide

/-- What operations are generated for. -/
structure Declarations where
  package : String
  types : List DeclaredType
deriving DecidableEq

namespace Declarations

/-! ## One type -/

def singleBindings (package : String) (type : DeclaredType) (carried : String) : Bindings :=
  .ofList [(.package, package), (.elementType, type.name),
    (.nameSuffix, Name.unqualified carried)]

/-- The uses for single types: scalars are only carried. -/
def singleUses (declarations : Declarations) : List TemplateUse :=
  let carried := withCarried declarations.package "" declarations.types
  TemplateUse.every Catalogue.single <|
    (carried.filter fun entry => !entry.1.isScalar).map fun entry =>
      singleBindings declarations.package entry.1 entry.2

/-- The operations on lists of one type. -/
def single (declarations : Declarations) : Except TemplateError String :=
  TemplateUse.render declarations.singleUses

/-! ## Two types -/

/-- All ordered pairs, those with the first type in front first. -/
def pairs (declarations : Declarations) : List (DeclaredType × DeclaredType) :=
  declarations.types.flatMap fun first => declarations.types.map fun second => (first, second)

/-- Pairs of scalars have their operations elsewhere. -/
def needsOperations (first second : DeclaredType) : Bool :=
  !(first.isScalar && second.isScalar)

def conversionBindings (input output : DeclaredType) : Bindings :=
  .ofList [(.inputSuffix, input.suffix), (.outputSuffix, output.suffix),
    (.inputType, input.valueType), (.outputType, output.valueType)]

/-- Converting a type to itself is `Map` and needs no conversion. -/
def needsConversions (input output : DeclaredType) : Bool :=
  input.name != output.name && needsOperations input output

/-- The uses for conversions. -/
def conversionUses (declarations : Declarations) : List TemplateUse :=
  TemplateUse.every Catalogue.conversion <|
    (declarations.pairs.filter fun pair => needsConversions pair.1 pair.2).map fun pair =>
      conversionBindings pair.1 pair.2

/-- The operations from lists of one type to lists of another. -/
def conversions (declarations : Declarations) : Except TemplateError String :=
  TemplateUse.render declarations.conversionUses

/-- The suffixes of a pair: a type combined with itself is named once, and not
at all if it is called like the package. -/
def combinationSuffixes (package : String) (key value : DeclaredType) : String × String :=
  if key.valueType = value.valueType then
    (if namesPackage package key.valueType then "" else key.suffix, "")
  else (key.suffix, value.suffix)

def combinationBindings (package : String) (key value : DeclaredType) : Bindings :=
  let suffixes := combinationSuffixes package key value
  .ofList [(.firstSuffix, suffixes.1), (.secondSuffix, suffixes.2),
    (.firstType, key.valueType), (.secondType, value.valueType)]

/-- The uses for combinations. -/
def combinationUses (declarations : Declarations) : List TemplateUse :=
  TemplateUse.every Catalogue.combination <|
    (declarations.pairs.filter fun pair => needsOperations pair.1 pair.2).map fun pair =>
      combinationBindings declarations.package pair.1 pair.2

/-- The operations on maps from one type to another. -/
def combinations (declarations : Declarations) : Except TemplateError String :=
  TemplateUse.render declarations.combinationUses

end Declarations

end ListOps
