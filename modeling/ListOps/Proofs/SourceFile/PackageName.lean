/-
# ListOps.Proofs.SourceFile.PackageName -- what the package's name decides

Templates never write the package: single operations leave it alone
(`Catalogue.fill_single_congr`), and no other family may name it.  So the package
counts only through the question which types are called like it.  Two packages
that agree on this get the same operations (`Declarations.text_singleUses_congr`,
`Declarations.combinationUses_congr`); conversions do not ask at all.

A generated file also has its package line.  `Request.generatedText_eq` sets it
apart from what follows, and what follows is the same for two packages whose names
differ in case only.
-/
import Mathlib.Data.List.Basic
import ListOps.Proofs.Declarations
import ListOps.Proofs.SourceFile.Lines

namespace ListOps

set_option autoImplicit false

/-! ## Operations -/

/-- Operations on one type are the same whatever the package's name is. -/
theorem Catalogue.fill_single_congr {bindings bindings' : Bindings}
    (same : ∀ placeholder ∈ singlePlaceholders,
      bindings.get? placeholder = bindings'.get? placeholder)
    {template : Template} (used : template ∈ single) :
    fill bindings.value template.body.toList = fill bindings'.value template.body.toList := by
  obtain ⟨operation, offered, rfl⟩ := List.mem_map.mp used
  refine (woven_single operation offered).fill_congr fun placeholder inside => ?_
  rw [Bindings.value, Bindings.value, same placeholder inside]

section

variable {p q : String} {types : List DeclaredType}
  (same : ∀ type ∈ types, namesPackage p type.name = namesPackage q type.name)

include same

theorem withCarried_congr (carried : String) :
    withCarried p carried types = withCarried q carried types := by
  induction types generalizing carried with
  | nil => rfl
  | cons type rest ih =>
    rw [List.forall_mem_cons] at same
    rw [withCarried, withCarried, carry, carry, same.1, ih same.2]

namespace Declarations

theorem text_singleUses_congr :
    TemplateUse.text (singleUses ⟨p, types⟩) = TemplateUse.text (singleUses ⟨q, types⟩) := by
  rw [TemplateUse.text, TemplateUse.text, singleUses, singleUses, TemplateUse.filled_every,
    TemplateUse.filled_every, List.flatMap_map, List.flatMap_map, withCarried_congr same]
  refine congrArg String.ofList (List.flatMap_congr fun entry _ => List.flatMap_congr ?_)
  refine fun template used => Catalogue.fill_single_congr ?_ used
  simp [Catalogue.singlePlaceholders, singleBindings, Bindings.ofList, Bindings.get?_bind]

end Declarations

end

namespace Declarations

variable {p q : String} {types : List DeclaredType}
  (same : ∀ type ∈ types, namesPackage p type.valueType = namesPackage q type.valueType)

include same

theorem combinationUses_congr : combinationUses ⟨p, types⟩ = combinationUses ⟨q, types⟩ := by
  have bindings : ∀ pair ∈ pairs ⟨p, types⟩, combinationBindings p pair.1 pair.2 =
      combinationBindings q pair.1 pair.2 := by
    intro pair member
    simp only [combinationBindings, combinationSuffixes, same pair.1 (mem_pairs member).1]
  refine congrArg (TemplateUse.every Catalogue.combination)
    (List.map_congr_left fun pair member => ?_)
  exact bindings pair (List.mem_filter.mp member).1

end Declarations

theorem namesPackage_eq_iff {p q name : String} :
    namesPackage p name = namesPackage q name ↔
      (Text.lower name = Text.lower (Text.trim p) ↔
        Text.lower name = Text.lower (Text.trim q)) := by
  rw [namesPackage, namesPackage, Bool.eq_iff_iff, beq_iff_eq, beq_iff_eq]

theorem namesPackage_valueType (package : String) (recognition : Recognition) (name : String) :
    namesPackage package (DeclaredType.ofName recognition name).valueType =
      namesPackage package (DeclaredType.ofName recognition name).name := by
  rw [namesPackage, namesPackage, DeclaredType.lower_valueType_ofName]

/-! ## Files -/

namespace Request

/-- What follows the package line of a generated file. -/
def behindPackage (request : Request) : String :=
  Code.text ((request.ownImports ++ Text.distinct request.imports).flatMap SourceFile.importLine ++
      .blank) ++
    TemplateUse.text request.declarations.singleUses ++ "\n" ++
    TemplateUse.text request.declarations.conversionUses ++ "\n" ++
    TemplateUse.text request.declarations.combinationUses

theorem generatedText_eq (request : Request) : request.generatedText =
    SourceFile.notice ++ "\n" ++ "package " ++ Text.trim request.package ++ "\n" ++
      request.behindPackage := by
  have start (package : String) (imports : List String) : SourceFile.heading package imports =
      SourceFile.notice ++ "\n" ++ "package " ++ package ++ "\n" ++
        Code.text (imports.flatMap SourceFile.importLine ++ .blank) := by
    apply String.toList_inj.mp
    simp [SourceFile.heading, Code.toList_text, Code.line, Line.indent]
  simp only [generatedText, behindPackage, start, ownImports, declarations, String.append_assoc]

/-- Packages whose names differ in case only leave the rest of the file alone. -/
theorem behindPackage_congr {request request' : Request}
    (types : request'.declaredTypes = request.declaredTypes)
    (imports : request'.imports = request.imports)
    (package : Text.lower (Text.trim request.package) = Text.lower (Text.trim request'.package)) :
    request.behindPackage = request'.behindPackage := by
  have same (name : String) : namesPackage (Text.trim request.package) name =
      namesPackage (Text.trim request'.package) name := by
    rw [namesPackage, namesPackage, Text.trim_trim, Text.trim_trim, package]
  have single : TemplateUse.text request.declarations.singleUses =
      TemplateUse.text request'.declarations.singleUses := by
    rw [declarations, declarations, types]
    exact Declarations.text_singleUses_congr fun type _ => same type.name
  have conversions : request.declarations.conversionUses =
      request'.declarations.conversionUses := by
    rw [declarations, declarations, types]
    rfl
  have combinations : request.declarations.combinationUses =
      request'.declarations.combinationUses := by
    rw [declarations, declarations, types]
    exact Declarations.combinationUses_congr fun type _ => same type.valueType
  rw [behindPackage, behindPackage, ownImports, ownImports, single, conversions, combinations,
    imports]

theorem generate_eq_of_valid {request : Request} (valid : request.validate = .ok ()) :
    request.generate = .ok ⟨SourceFile.notice ++ "\n" ++ "package " ++ Text.trim request.package ++
      "\n" ++ request.behindPackage⟩ := by
  rw [generate_eq, valid, generatedText_eq]

end Request

/-- **The package decides names only, and only through the types called like it.**
Two packages that the same types are called like get the same operations on single
types and the same combinations; conversions never depend on the package.  So the
files of two valid requests whose packages differ in case only differ at most in
the package line. -/
theorem Declarations.eq_of_same_named (declared : List (Recognition × String)) (p q : String) :
    let types := declared.map fun entry => DeclaredType.ofName entry.1 entry.2
    ((∀ type ∈ types, Text.lower type.name = Text.lower (Text.trim p) ↔
        Text.lower type.name = Text.lower (Text.trim q)) →
      (∃ text, single ⟨p, types⟩ = .ok text ∧ single ⟨q, types⟩ = .ok text) ∧
      ∃ text, combinations ⟨p, types⟩ = .ok text ∧ combinations ⟨q, types⟩ = .ok text) ∧
    (∃ text, conversions ⟨p, types⟩ = .ok text ∧ conversions ⟨q, types⟩ = .ok text) ∧
    ∀ request : Request, Request.validate { request with package := p } = .ok () →
      Request.validate { request with package := q } = .ok () →
      Text.lower (Text.trim p) = Text.lower (Text.trim q) →
      ∃ behind : String,
        Request.generate { request with package := p } = .ok ⟨SourceFile.notice ++ "\n" ++
          "package " ++ Text.trim p ++ "\n" ++ behind⟩ ∧
        Request.generate { request with package := q } = .ok ⟨SourceFile.notice ++ "\n" ++
          "package " ++ Text.trim q ++ "\n" ++ behind⟩ := by
  intro types
  refine ⟨fun called => ?_, ⟨_, conversions_eq_ok _, conversions_eq_ok _⟩, ?_⟩
  · have names : ∀ type ∈ types, namesPackage p type.name = namesPackage q type.name :=
      fun type member => namesPackage_eq_iff.mpr (called type member)
    have valueTypes : ∀ type ∈ types,
        namesPackage p type.valueType = namesPackage q type.valueType := by
      intro type member
      have same := names type member
      obtain ⟨⟨recognition, name⟩, -, rfl⟩ := List.mem_map.mp member
      rw [namesPackage_valueType, namesPackage_valueType, same]
    refine ⟨⟨_, single_eq_ok _, ?_⟩, ⟨_, combinations_eq_ok _, ?_⟩⟩
    · rw [single_eq_ok, text_singleUses_congr names]
    · rw [combinations_eq_ok, combinationUses_congr valueTypes]
  · intro request valid valid' differ
    refine ⟨Request.behindPackage { request with package := p },
      Request.generate_eq_of_valid valid, ?_⟩
    have same : Request.behindPackage { request with package := p } =
        Request.behindPackage { request with package := q } :=
      Request.behindPackage_congr rfl rfl differ
    rw [same]
    exact Request.generate_eq_of_valid valid'

/-- Neither package is called like a type, or both are called like the same one. -/
theorem Declarations.eq_of_same_named_repeated :
    let types : List DeclaredType := [(.exact, "INT"), (.substring, " Float"), (.exact, ""),
      (.exact, "a.T"), (.exact, "int")].map fun entry => DeclaredType.ofName entry.1 entry.2
    let request : Request := ⟨"r", ["Int", "T", " int"], ["sync"], .exact⟩
    (∀ type ∈ types, Text.lower type.name = Text.lower (Text.trim "hr") ↔
      Text.lower type.name = Text.lower (Text.trim "school")) ∧
    (∃ text, single ⟨"hr", types⟩ = .ok text ∧ single ⟨"school", types⟩ = .ok text) ∧
    (∃ text, combinations ⟨"hr", types⟩ = .ok text ∧ combinations ⟨"school", types⟩ = .ok text) ∧
    (∃ text, conversions ⟨"hr", types⟩ = .ok text ∧ conversions ⟨"int", types⟩ = .ok text) ∧
    Request.validate { request with package := "int" } = .ok () ∧
    Request.validate { request with package := " iNT" } = .ok () ∧
    Text.lower (Text.trim "int") = Text.lower (Text.trim " iNT") ∧
    ∃ behind : String,
      Request.generate { request with package := "int" } = .ok ⟨SourceFile.notice ++ "\n" ++
        "package " ++ Text.trim "int" ++ "\n" ++ behind⟩ ∧
      Request.generate { request with package := " iNT" } = .ok ⟨SourceFile.notice ++ "\n" ++
        "package " ++ Text.trim " iNT" ++ "\n" ++ behind⟩ := by
  intro types request
  have called : ∀ type ∈ types, Text.lower type.name = Text.lower (Text.trim "hr") ↔
      Text.lower type.name = Text.lower (Text.trim "school") := by decide +kernel
  have valid : Request.validate { request with package := "int" } = .ok () :=
    Request.validate_eq_ok _ (by decide +kernel) (by decide +kernel)
  have valid' : Request.validate { request with package := " iNT" } = .ok () :=
    Request.validate_eq_ok _ (by decide +kernel) (by decide +kernel)
  have differ : Text.lower (Text.trim "int") = Text.lower (Text.trim " iNT") := by decide +kernel
  have same := eq_of_same_named [(.exact, "INT"), (.substring, " Float"), (.exact, ""),
    (.exact, "a.T"), (.exact, "int")]
  obtain ⟨operations, -⟩ := same "hr" "school"
  obtain ⟨-, conversions, -⟩ := same "hr" "int"
  obtain ⟨-, -, files⟩ := same "int" " iNT"
  exact ⟨called, (operations called).1, (operations called).2, conversions, valid, valid', differ,
    files request valid valid' differ⟩

end ListOps
