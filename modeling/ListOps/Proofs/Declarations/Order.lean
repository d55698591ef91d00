/-
# ListOps.Proofs.Declarations.Order -- what the order of declarations decides

Operations on two types look at one pair at a time, so the same types in another
order have the same pairs in another order (`pairs_perm`).  Operations on one type
look at the name that is carried to it, which comes from the types in front.  But a
type that is not called like the package overwrites what is carried before anything
is named after it (`carry_of_other`), so where no type is called like the package,
each one carries its own name, whatever stands in front (`withCarried_of_other`).

Functions are read off each use of a template on its own
(`TemplateUse.functionNames_text`), even where a name breaks lines.  So all that the
order decides is the order: `functions_reordered`.
-/
import Mathlib.Data.List.Perm.Basic
import ListOps.Proofs.Declarations.Blocks

namespace ListOps

set_option autoImplicit false

/-! ## Functions, use by use -/

namespace TemplateUse

theorem functionNames_text {uses : List TemplateUse} (whole : ∀ use ∈ uses, Whole use.written) :
    SourceFile.functionNames ⟨text uses⟩ =
      uses.flatMap fun use => SourceFile.functionNames ⟨use.written⟩ := by
  have texts : ∀ text ∈ uses.map written, Whole text := by simpa using whole
  rw [SourceFile.functionNames, text_eq_join, Text.lines_join texts, List.flatMap_map,
    List.filterMap_flatMap]
  rfl

/-- The same values in another order declare the same functions in another order. -/
theorem functionNames_perm (operations : List Operation) (family : Family)
    {bindings bindings' : List Bindings} (reordered : bindings.Perm bindings') :
    (SourceFile.functionNames
        ⟨text (every (operations.map (Operation.template family)) bindings)⟩).Perm
      (SourceFile.functionNames
        ⟨text (every (operations.map (Operation.template family)) bindings')⟩) := by
  rw [functionNames_text fun use member => whole_written_of_mem member,
    functionNames_text fun use member => whole_written_of_mem member]
  exact (reordered.flatMap_right _).flatMap_right _

end TemplateUse

/-! ## Types and pairs in another order -/

section

variable {package : String}

/-- A type of another name than the package's overwrites what is carried. -/
theorem carry_of_other {type : DeclaredType} (other : namesPackage package type.name = false)
    (carried : String) : carry package carried type = type.name := by
  rw [carry, other]
  rfl

/-- Where no type is called like the package, each carries its own name. -/
theorem withCarried_of_other {types : List DeclaredType}
    (other : ∀ type ∈ types, namesPackage package type.name = false) (carried : String) :
    withCarried package carried types = types.map fun type => (type, type.name) := by
  induction types generalizing carried with
  | nil => rfl
  | cons type rest ih =>
    rw [List.forall_mem_cons] at other
    rw [withCarried, carry_of_other other.1, ih other.2, List.map_cons]

end

namespace Declarations

/-- Two results are made of the same blocks, in one order and in another, and declare
the same functions, each as often. -/
structure Reordered {α : Type} (block : α → Except TemplateError String) (entries entries' : List α)
    (result result' : Except TemplateError String) : Prop where
  perm : entries.Perm entries'
  made : MadeOf result block entries
  made' : MadeOf result' block entries'
  functions : ∃ text text' : String, result = .ok text ∧ result' = .ok text' ∧
    (SourceFile.functionNames ⟨text⟩).Perm (SourceFile.functionNames ⟨text'⟩)

section

variable (package : String) {types types' : List DeclaredType} (reordered : types.Perm types')

include reordered

theorem singleEntries_perm (other : ∀ type ∈ types, namesPackage package type.name = false) :
    (singleEntries ⟨package, types⟩).Perm (singleEntries ⟨package, types'⟩) := by
  have other' : ∀ type ∈ types', namesPackage package type.name = false :=
    fun type declared => other type (reordered.mem_iff.mpr declared)
  rw [singleEntries, singleEntries, withCarried_of_other other, withCarried_of_other other']
  exact (reordered.map _).filter _

theorem pairs_perm : (pairs ⟨package, types⟩).Perm (pairs ⟨package, types'⟩) :=
  reordered.product reordered

theorem conversionPairs_perm :
    (conversionPairs ⟨package, types⟩).Perm (conversionPairs ⟨package, types'⟩) :=
  (pairs_perm package reordered).filter _

theorem combinationPairs_perm :
    (combinationPairs ⟨package, types⟩).Perm (combinationPairs ⟨package, types'⟩) :=
  (pairs_perm package reordered).filter _

end

/-- **The order of declarations decides the order only.**  The same types, in another
order and as often, get the same conversions and the same combinations in another
order, and so the same functions, each as often.  The same holds for the operations on
single types if none of them is called like the package. -/
theorem functions_reordered (package : String) {types types' : List DeclaredType}
    (reordered : types.Perm types') :
    Reordered (fun pair => conversionBlock pair.1 pair.2)
      (conversionPairs ⟨package, types⟩) (conversionPairs ⟨package, types'⟩)
      (conversions ⟨package, types⟩) (conversions ⟨package, types'⟩) ∧
    Reordered
      (fun pair => combinationBlock (combinationSuffixes package pair.1 pair.2) pair.1 pair.2)
      (combinationPairs ⟨package, types⟩) (combinationPairs ⟨package, types'⟩)
      (combinations ⟨package, types⟩) (combinations ⟨package, types'⟩) ∧
    ((∀ type ∈ types, Text.lower type.name ≠ Text.lower (Text.trim package)) →
      Reordered (fun entry => singleBlock entry.1.name (Name.unqualified entry.2))
        (singleEntries ⟨package, types⟩) (singleEntries ⟨package, types'⟩)
        (single ⟨package, types⟩) (single ⟨package, types'⟩)) := by
  refine ⟨?_, ?_, fun foreign => ?_⟩
  · have entries := conversionPairs_perm package reordered
    have functions := TemplateUse.functionNames_perm Catalogue.Conversion.all .conversion
      (entries.map fun pair => conversionBindings pair.1 pair.2)
    exact ⟨entries, madeOf_conversions _, madeOf_conversions _, _, _, conversions_eq_ok _,
      conversions_eq_ok _, functions⟩
  · have entries := combinationPairs_perm package reordered
    have functions := TemplateUse.functionNames_perm Catalogue.Combination.all .combination
      (entries.map fun pair => combinationBindings package pair.1 pair.2)
    exact ⟨entries, madeOf_combinations _, madeOf_combinations _, _, _, combinations_eq_ok _,
      combinations_eq_ok _, functions⟩
  · have other : ∀ type ∈ types, namesPackage package type.name = false := by
      intro type declared
      rw [namesPackage, beq_eq_false_iff_ne]
      exact foreign type declared
    have entries := singleEntries_perm package reordered other
    have functions := TemplateUse.functionNames_perm Catalogue.Single.all .single
      (entries.map fun entry => singleBindings package entry.1 entry.2)
    exact ⟨entries, madeOf_single _, madeOf_single _, _, _, single_eq_ok _, single_eq_ok _,
      functions⟩

/-- A type that is listed twice, and one whose name breaks a line and opens a bracket. -/
theorem functions_reordered_repeated :
    let types : List DeclaredType :=
      [⟨"a.T", false⟩, ⟨"INT", true⟩, ⟨"x\ny(", false⟩, ⟨"a.T", false⟩]
    let types' : List DeclaredType :=
      [⟨"x\ny(", false⟩, ⟨"a.T", false⟩, ⟨"a.T", false⟩, ⟨"INT", true⟩]
    types.Perm types' ∧
    (∀ type ∈ types, Text.lower type.name ≠ Text.lower (Text.trim " HR")) ∧
    Reordered (fun pair => conversionBlock pair.1 pair.2)
      (conversionPairs ⟨" HR", types⟩) (conversionPairs ⟨" HR", types'⟩)
      (conversions ⟨" HR", types⟩) (conversions ⟨" HR", types'⟩) ∧
    Reordered (fun entry => singleBlock entry.1.name (Name.unqualified entry.2))
      (singleEntries ⟨" HR", types⟩) (singleEntries ⟨" HR", types'⟩)
      (single ⟨" HR", types⟩) (single ⟨" HR", types'⟩) := by
  intro types types'
  have reordered : types.Perm types' := by decide
  have foreign : ∀ type ∈ types, Text.lower type.name ≠ Text.lower (Text.trim " HR") := by decide
  obtain ⟨conversions, -, single⟩ := functions_reordered " HR" reordered
  exact ⟨reordered, foreign, conversions, single foreign⟩

end Declarations

end ListOps
