/-
# ListOps.Proofs.Request.Flags -- requests from flag values

Lists that are written as comma-separated texts are read back but for their blank
entries (`Text.listed_intercalate`).  The builder from flag values drops blank names
and the builder from lists keeps them, but they declare nothing; blank paths are
dropped by both.  So it does not matter which way a request is given:
`Request.ofFlags_intercalate`.
-/
import ListOps.Proofs.Request.Fields

namespace ListOps.Request

set_option autoImplicit false

section

variable (package : String) {types imports : List String}

/-- What a request from written lists holds. -/
theorem ofFlags_eq (typesWhole : ∀ name ∈ types, ',' ∉ name.toList)
    (importsWhole : ∀ path ∈ imports, ',' ∉ path.toList) :
    ofFlags package (",".intercalate types) (some (",".intercalate imports)) =
      (ofTypes package (Text.nonBlank types)).withImports imports := by
  rw [ofFlags, Text.listed_intercalate typesWhole, Text.listed_intercalate importsWhole,
    withImports, withImports, Text.nonBlank_nonBlank]

/-- Names that are blank may be left out. -/
theorem sameOutcome_nonBlank (recognition : Recognition) :
    (((ofTypes package (Text.nonBlank types)).withImports imports).withRecognition
      recognition).SameOutcome
        (((ofTypes package types).withImports imports).withRecognition recognition) := by
  refine .of_fields rfl (declaredTypes_congr rfl ?_) rfl
  show Text.nonBlank ((Text.nonBlank types).map Text.trim) = Text.nonBlank (types.map Text.trim)
  rw [Text.nonBlank_map_trim, Text.nonBlank_map_trim, Text.nonBlank_nonBlank]

end

/-- **Flag values and lists are two ways to give one request.**  Lists without
commas may be written as comma-separated texts: the request has the same package,
the same import paths and the same declared types, and whichever scalars are
recognised, the same outcome.  The entries of any text are trimmed, filled and hold
no comma, and they are all that it says. -/
theorem ofFlags_intercalate :
    (∀ (package : String) (types imports : List String),
      (∀ entry ∈ types ++ imports, ',' ∉ entry.toList) →
      let flags := ofFlags package (",".intercalate types) (some (",".intercalate imports))
      let lists := (ofTypes package types).withImports imports
      flags.package = lists.package ∧ flags.imports = lists.imports ∧
      flags.recognition = lists.recognition ∧ flags.declaredTypes = lists.declaredTypes ∧
      ∀ recognition,
        (flags.withRecognition recognition).SameOutcome (lists.withRecognition recognition)) ∧
    ∀ text : String,
      (∀ entry ∈ Text.listed text, Text.trim entry = entry ∧ entry ≠ "" ∧ ',' ∉ entry.toList) ∧
      Text.listed (",".intercalate (Text.listed text)) = Text.listed text := by
  refine ⟨fun package types imports whole => ?_, fun text => ⟨fun entry member => ?_, ?_⟩⟩
  · rw [List.forall_mem_append] at whole
    intro flags lists
    have built : flags = (ofTypes package (Text.nonBlank types)).withImports imports :=
      ofFlags_eq package whole.1 whole.2
    rw [built]
    exact ⟨rfl, rfl, rfl, (sameOutcome_nonBlank package .standard).declaredTypes,
      sameOutcome_nonBlank package⟩
  · exact ⟨Text.trim_of_mem_nonBlank member, (Text.mem_nonBlank.mp member).1,
      Text.comma_not_mem_of_mem_listed member⟩
  · exact Text.listed_listed text

/-- Blank entries, a text of blanks only and no imports at all. -/
theorem ofFlags_intercalate_blanks :
    let types := [" a.T", "", "\t", "INT\u00a0", "a.t "]
    let flags := ofFlags " hr" (",".intercalate types) (some (",".intercalate []))
    let lists := (ofTypes " hr" types).withImports []
    (∀ entry ∈ types ++ [], ',' ∉ entry.toList) ∧
    flags.types ≠ lists.types ∧ flags.package = lists.package ∧ flags.imports = lists.imports ∧
    flags.recognition = lists.recognition ∧ flags.declaredTypes = lists.declaredTypes ∧
    (∀ recognition,
      (flags.withRecognition recognition).SameOutcome (lists.withRecognition recognition)) ∧
    Text.listed (",".intercalate (Text.listed " a,, b ,")) = Text.listed " a,, b ," := by
  intro types flags lists
  have whole : ∀ entry ∈ types ++ [], ',' ∉ entry.toList := by decide +kernel
  have different : flags.types ≠ lists.types := by decide +kernel
  obtain ⟨package, paths, recognition, declared, outcomes⟩ :=
    ofFlags_intercalate.1 " hr" types [] whole
  exact ⟨whole, different, package, paths, recognition, declared, outcomes,
    (ofFlags_intercalate.2 " a,, b ,").2⟩

end ListOps.Request
