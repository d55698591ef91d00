/-
# ListOps.Proofs.SourceFile.Sync -- when a generated file needs `sync`

A parallel map waits for its workers with `sync`.  A file imports it if the
operations on one type or the conversions are not empty, and this looks at neither
the functions that are written nor at combinations, which may be written as well.

All of it comes down to one question: is some declared type no scalar?  Such a type
gets all operations on one type, `PMap` among them (`Request.exists_parallelMap`),
even where its name holds a bracket and so is cut short when it is read back.  Without
one nothing is written behind the heading (`Request.functionNames_eq_nil`).
-/
import Mathlib.Data.List.TFAE
import Mathlib.Tactic.TFAE
import ListOps.Proofs.SourceFile.Imports

namespace ListOps

set_option autoImplicit false

open SourceFile

/-- A head is read up to its first bracket.  That may stand in the suffix, but not
in the verb. -/
theorem Operation.declaredName?_headLine {operation : Operation} (value : Placeholder → String)
    (plain : isPlain operation.verb.toList = true) (noBracket : '(' ∉ operation.verb.toList) :
    ∃ name, declaredName? (String.ofList (operation.headLine.filled value)) = some name ∧
      operation.verb.toList <+: name.toList := by
  obtain ⟨rest, start⟩ := filled_headLine value plain
  have bracket : '(' ∈ fill value operation.suffix.toList ++ '(' :: rest := by simp
  obtain ⟨front, behind, cut, absent⟩ := List.eq_append_cons_of_mem bracket
  have name : '(' ∉ operation.verb.toList ++ front := by simp [noBracket, absent]
  have head : operation.headLine.filled value =
      keyword ++ (operation.verb.toList ++ front ++ '(' :: behind) := by
    rw [start, List.append_assoc, cut, List.append_assoc]
  refine ⟨String.ofList (operation.verb.toList ++ front), ?_, ?_⟩
  · rw [head]
    exact declaredName?_declaration name behind
  · rw [String.toList_ofList]
    exact List.prefix_append _ front

namespace Request

variable {request : Request}

theorem lines_written_subset {use : TemplateUse}
    (member : use ∈ request.declarations.singleUses) :
    Text.lines use.written ⊆ Text.lines request.generatedText := by
  have stretch : use.written ∈ request.stretches := by
    simp only [stretches, List.mem_append]
    exact .inl (.inl (.inl (.inl (.inr (List.mem_map_of_mem member)))))
  intro line inside
  rw [lines_generatedText]
  exact List.mem_flatMap.mpr ⟨use.written, stretch, inside⟩

section

variable (valid : request.validate = .ok ())
  (types : ∀ type ∈ request.declaredTypes, '\n' ∉ type.name.toList)
  (imports : ∀ path ∈ request.imports, '\n' ∉ (Text.trim path).toList)

include valid

include types in
/-- A type that is no scalar has a parallel map. -/
theorem exists_parallelMap {type : DeclaredType} (declared : type ∈ request.declaredTypes)
    (other : type.isScalar = false) :
    ∃ name ∈ functionNames ⟨request.generatedText⟩, "PMap".toList <+: name.toList := by
  have offered : Catalogue.Single.parallelMap ∈ Catalogue.Single.all := by
    simp [Catalogue.Single.all]
  obtain ⟨carried, used⟩ := request.declarations.exists_singleUse offered declared other
  obtain ⟨name, read, starts⟩ := Catalogue.Single.parallelMap.declaredName?_headLine
    (Declarations.singleBindings request.declarations.package type carried).value
    (by decide) (by decide)
  rw [← declaredName?_dropReturn] at read
  refine ⟨name, List.mem_filterMap.mpr ⟨_, lines_written_subset used ?_, read⟩, starts⟩
  rw [TemplateUse.lines_written (Catalogue.woven_single _ offered)
    (not_mem_value_of_mem_singleUses (newline_not_mem_package valid) types used)]
  refine List.mem_map_of_mem
    (f := fun line => String.ofList (Chars.dropReturn (Line.filled _ line))) ?_
  rw [Operation.code_eq]
  exact List.mem_cons_of_mem _ List.mem_cons_self

include imports in
/-- Scalars alone have no operations in the file. -/
theorem functionNames_eq_nil (scalars : ∀ type ∈ request.declaredTypes, type.isScalar = true) :
    functionNames ⟨request.generatedText⟩ = [] := by
  obtain ⟨single, conversions, combinations⟩ := request.declarations.uses_eq_nil scalars
  have nothing {uses : List TemplateUse} (unused : uses = []) :
      Declares (TemplateUse.text uses).toList [] := by
    rw [unused]
    exact Declares.nil
  exact functionNames_of_declares (declares_request_heading valid imports _) (nothing single)
    (nothing conversions) (nothing combinations)

include types imports in
/-- An import that is not asked for is the file's own. -/
theorem sync_imported_iff (unasked : "sync" ∉ request.imports.map Text.trim) :
    importText "sync" ∈ Text.lines request.generatedText ↔
      ∃ type ∈ request.declaredTypes, type.isScalar = false := by
  have given : (Text.distinct request.imports).count "sync" = 0 := by
    rwa [List.count_eq_zero, Text.mem_distinct]
  rw [← List.count_pos_iff, count_importText valid types imports, count_ownImports, given]
  by_cases other : ∃ type ∈ request.declaredTypes, type.isScalar = false
  · simp [other]
  · simp [other]

end

theorem single_filled_iff : TemplateUse.text request.declarations.singleUses ≠ "" ↔
    ∃ type ∈ request.declaredTypes, type.isScalar = false := by
  rw [ne_eq, ← String.isEmpty_iff, Declarations.isEmpty_text_singleUses_iff]
  push Not
  simp only [Bool.not_eq_true]
  rfl

/-- **`sync` is imported exactly where it is used.**  If a request does not ask for it,
then its file imports `sync` exactly if it declares a parallel map, exactly if some
declared type is no scalar, and exactly if there are operations on one type.  A file
without the import declares no function at all. -/
theorem sync_imported_iff_used (request : Request) (valid : request.validate = .ok ())
    (types : ∀ type ∈ request.declaredTypes, '\n' ∉ type.name.toList)
    (imports : ∀ path ∈ request.imports, '\n' ∉ (Text.trim path).toList)
    (unasked : "sync" ∉ request.imports.map Text.trim) :
    ∃ (file : SourceFile) (single : String),
      request.generate = .ok file ∧ request.declarations.single = .ok single ∧
      [importText "sync" ∈ Text.lines file.text,
        ∃ name ∈ file.functionNames, "PMap".toList <+: name.toList,
        ∃ type ∈ request.declaredTypes, type.isScalar = false,
        single ≠ ""].TFAE ∧
      (importText "sync" ∉ Text.lines file.text → file.functionNames = []) := by
  refine ⟨⟨request.generatedText⟩, TemplateUse.text request.declarations.singleUses,
    by rw [generate_eq, valid], request.declarations.single_eq_ok, ?_, ?_⟩
  · tfae_have 1 ↔ 3 := sync_imported_iff valid types imports unasked
    tfae_have 3 → 2 := fun ⟨_, declared, other⟩ => exists_parallelMap valid types declared other
    tfae_have 2 → 3 := by
      rintro ⟨name, declared, -⟩
      by_contra none_
      have scalars : ∀ type ∈ request.declaredTypes, type.isScalar = true := by simpa using none_
      rw [functionNames_eq_nil valid imports scalars] at declared
      exact List.not_mem_nil declared
    tfae_have 4 ↔ 3 := single_filled_iff
    tfae_finish
  · intro absent
    rw [sync_imported_iff valid types imports unasked] at absent
    exact functionNames_eq_nil valid imports (by simpa using absent)

/-- A bracket in a type's name cuts the names of its functions short. -/
theorem sync_imported_iff_used_bracket :
    let request : Request := ⟨"hr", ["int", "a.F(x)"], ["fmt", "a/sync"], .substring⟩
    request.validate = .ok () ∧
    (∀ type ∈ request.declaredTypes, '\n' ∉ type.name.toList) ∧
    (∀ path ∈ request.imports, '\n' ∉ (Text.trim path).toList) ∧
    "sync" ∉ request.imports.map Text.trim ∧
    ∃ (file : SourceFile) (single : String),
      request.generate = .ok file ∧ request.declarations.single = .ok single ∧
      [importText "sync" ∈ Text.lines file.text,
        ∃ name ∈ file.functionNames, "PMap".toList <+: name.toList,
        ∃ type ∈ request.declaredTypes, type.isScalar = false,
        single ≠ ""].TFAE ∧
      (importText "sync" ∉ Text.lines file.text → file.functionNames = []) := by
  intro request
  have valid : request.validate = .ok () :=
    Request.validate_eq_ok _ (by decide) (by decide)
  have types : ∀ type ∈ request.declaredTypes, '\n' ∉ type.name.toList := by decide
  have imports : ∀ path ∈ request.imports, '\n' ∉ (Text.trim path).toList := by decide
  have unasked : "sync" ∉ request.imports.map Text.trim := by decide
  exact ⟨valid, types, imports, unasked,
    sync_imported_iff_used request valid types imports unasked⟩

end Request

end ListOps
