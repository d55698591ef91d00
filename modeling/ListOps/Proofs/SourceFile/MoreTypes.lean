/-
# ListOps.Proofs.SourceFile.MoreTypes -- declaring more types

Types that are declared behind the others change nothing for those in front: the
declared types get longer at their end only (`ofNames_isPrefix`), and a name is
carried from the front to the back.  So the operations on single types grow at
their end (`singleUses_isPrefix`).  New pairs come between old ones, but the old
ones stay, in their order (`conversionUses_sublist`, `combinationUses_sublist`).

All in all, the stretches of the smaller file are found in the larger one in
their order (`Request.stretches_sublist`), and so are its lines and the functions
that it declares: `Request.generate_append_types`.
-/
import Mathlib.Data.List.Flatten
import Mathlib.Data.List.Infix
import ListOps.Proofs.SourceFile.Imports

namespace ListOps

set_option autoImplicit false

/-! ## Declared types and their uses -/

theorem DeclaredType.ofNames_isPrefix (recognition : Recognition) (names further : List String) :
    ofNames recognition names <+: ofNames recognition (names ++ further) := by
  rw [ofNames, ofNames, Text.distinctIgnoringCase, Text.distinctIgnoringCase, List.map_append]
  exact ((firstOccurrencesFrom_isPrefix [] _ _).filter _).map _

theorem withCarried_isPrefix {types types' : List DeclaredType} (grows : types <+: types')
    (package carried : String) :
    withCarried package carried types <+: withCarried package carried types' := by
  obtain ⟨further, rfl⟩ := grows
  -- what is carried to a place depends on the types in front of it only
  induction types generalizing carried with
  | nil => exact List.nil_prefix
  | cons type rest ih => exact (List.prefix_cons_inj _).mpr (ih _)

namespace Declarations

variable (package : String) {types types' : List DeclaredType}

theorem singleUses_isPrefix (grows : types <+: types') :
    singleUses ⟨package, types⟩ <+: singleUses ⟨package, types'⟩ :=
  (((withCarried_isPrefix grows package "").filter _).map _).flatMap _

theorem pairs_sublist (grows : types.Sublist types') :
    (pairs ⟨package, types⟩).Sublist (pairs ⟨package, types'⟩) := by
  have seconds : (types.flatMap fun first => types.map fun second => (first, second)).Sublist
      (types.flatMap fun first => types'.map fun second => (first, second)) :=
    .flatMap_right types fun first _ => grows.map _
  exact seconds.trans (grows.flatMap _)

theorem conversionUses_sublist (grows : types.Sublist types') :
    (conversionUses ⟨package, types⟩).Sublist (conversionUses ⟨package, types'⟩) :=
  (((pairs_sublist package grows).filter _).map _).flatMap _

theorem combinationUses_sublist (grows : types.Sublist types') :
    (combinationUses ⟨package, types⟩).Sublist (combinationUses ⟨package, types'⟩) :=
  (((pairs_sublist package grows).filter _).map _).flatMap _

/-- What is generated for single types is continued. -/
theorem single_isPrefix (grows : types <+: types') :
    ∃ text text' : String, single ⟨package, types⟩ = .ok text ∧
      single ⟨package, types'⟩ = .ok text' ∧ text.toList <+: text'.toList := by
  refine ⟨_, _, single_eq_ok _, single_eq_ok _, ?_⟩
  rw [TemplateUse.text, TemplateUse.text, String.toList_ofList, String.toList_ofList]
  exact (singleUses_isPrefix package grows).flatMap _

end Declarations

/-! ## Files -/

namespace SourceFile

theorem headingCode_sublist (package : String) {imports imports' : List String}
    (grows : imports.Sublist imports') :
    (headingCode package imports).Sublist (headingCode package imports') :=
  ((List.Sublist.refl _).append (grows.flatMap importLine)).append (.refl _)

end SourceFile

namespace Request

/-- A request with further types behind its own. -/
def declaring (request : Request) (further : List String) : Request :=
  { request with types := request.types ++ further }

variable (request : Request) (further : List String)

theorem declaredTypes_isPrefix :
    request.declaredTypes <+: (request.declaring further).declaredTypes :=
  DeclaredType.ofNames_isPrefix request.recognition request.types further

theorem ownImports_sublist :
    request.ownImports.Sublist (request.declaring further).ownImports := by
  have kept := (request.declaredTypes_isPrefix further).subset
  rw [ownImports_eq, ownImports_eq]
  by_cases scalars : ∀ type ∈ request.declaredTypes, type.isScalar = true
  · rw [if_pos scalars]
    exact List.nil_sublist _
  · rw [if_neg scalars, if_neg fun all => scalars fun type declared => all type (kept declared)]

/-- Further types only add stretches. -/
theorem stretches_sublist :
    request.stretches.Sublist (request.declaring further).stretches := by
  have grows := request.declaredTypes_isPrefix further
  have heading : request.headingCode.Sublist (request.declaring further).headingCode :=
    SourceFile.headingCode_sublist _
      ((request.ownImports_sublist further).append (.refl (Text.distinct request.imports)))
  have single := (Declarations.singleUses_isPrefix request.declarations.package grows).sublist
  have conversions :=
    Declarations.conversionUses_sublist request.declarations.package grows.sublist
  have combinations :=
    Declarations.combinationUses_sublist request.declarations.package grows.sublist
  exact (((((heading.map _).append (single.map _)).append (.refl _)).append
    (conversions.map _)).append (.refl _)).append (combinations.map _)

theorem functionNames_sublist :
    (SourceFile.functionNames ⟨request.generatedText⟩).Sublist
      (SourceFile.functionNames ⟨(request.declaring further).generatedText⟩) := by
  rw [SourceFile.functionNames, SourceFile.functionNames, lines_generatedText, lines_generatedText]
  exact ((request.stretches_sublist further).flatMap Text.lines).filterMap _

theorem validate_declaring (valid : request.validate = .ok ()) :
    (request.declaring further).validate = .ok () := by
  obtain ⟨named, name, declared, nonblank⟩ := request.validate_eq_ok_iff.mp valid
  exact (validate_eq_ok_iff _).mpr ⟨named, name, List.mem_append_left further declared, nonblank⟩

/-- **Declaring more types never loses or renames a function**: the functions of
the file are found in the larger file, in their order and as often, and the
operations on single types are continued, whatever the names hold. -/
theorem generate_append_types (request : Request) (further : List String)
    (valid : request.validate = .ok ()) :
    let larger : Request := { request with types := request.types ++ further }
    (∃ file file' : SourceFile, request.generate = .ok file ∧ larger.generate = .ok file' ∧
      file.functionNames.Sublist file'.functionNames) ∧
    ∃ text text' : String,
      Declarations.single ⟨request.package, request.declaredTypes⟩ = .ok text ∧
      Declarations.single ⟨request.package, larger.declaredTypes⟩ = .ok text' ∧
      text.toList <+: text'.toList := by
  intro larger
  have valid' : larger.validate = .ok () := request.validate_declaring further valid
  refine ⟨⟨⟨request.generatedText⟩, ⟨larger.generatedText⟩, ?_, ?_, ?_⟩, ?_⟩
  · rw [generate_eq, valid]
  · rw [generate_eq, valid']
  · exact request.functionNames_sublist further
  · exact Declarations.single_isPrefix request.package (request.declaredTypes_isPrefix further)

/-- Behind a scalar, the package's own type, a broken name and a repeated one
still bring in all that they need. -/
theorem generate_append_types_own_type :
    let request : Request := ⟨"p", ["int", "a.T"], ["sync"], .exact⟩
    let larger : Request := ⟨"p", ["int", "a.T", "P", "A.t ", "x\ny(", ""], ["sync"], .exact⟩
    request.validate = .ok () ∧
    (∃ file file' : SourceFile, request.generate = .ok file ∧ larger.generate = .ok file' ∧
      file.functionNames.Sublist file'.functionNames) ∧
    ∃ text text' : String,
      Declarations.single ⟨request.package, request.declaredTypes⟩ = .ok text ∧
      Declarations.single ⟨request.package, larger.declaredTypes⟩ = .ok text' ∧
      text.toList <+: text'.toList := by
  intro request larger
  have valid : request.validate = .ok () :=
    Request.validate_eq_ok _ (by decide +kernel) (by decide +kernel)
  exact ⟨valid, generate_append_types request ["P", "A.t ", "x\ny(", ""] valid⟩

end Request

end ListOps
