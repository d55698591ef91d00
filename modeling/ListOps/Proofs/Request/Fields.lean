/-
# ListOps.Proofs.Request.Fields -- what counts of a request's fields

Fields are trimmed where they are read, so two requests have the same outcome as
soon as they agree on the trimmed package, on the types that they declare and on
the paths that they import (`SameOutcome.of_fields`).  Blank names declare nothing,
but a blank path would be imported.  None comes about as long as a request is built
from lists or flag values and every path that is set afterwards is filled: what one
edit keeps (`PathsFilled.apply`), a run of edits keeps (`PathsFilled.edited`).

Such a request may hold white space anywhere, and it has the outcome of the request
that is built from its fields anew, which holds none:
`Request.outcome_of_trimmed_fields`.
-/
import ListOps.Proofs.SourceFile.Verdict

namespace ListOps

set_option autoImplicit false

/-! ## Outcomes -/

/-- Two requests declare the same types, get the same verdict, and the same file or
error. -/
structure Request.SameOutcome (request request' : Request) : Prop where
  declaredTypes : request.declaredTypes = request'.declaredTypes
  validate : request.validate = request'.validate
  generate : request.generate = request'.generate

theorem validPackage_congr {package package' : String}
    (same : Text.trim package = Text.trim package') :
    validPackage package = validPackage package' := by
  rw [validPackage, validPackage, same]

namespace Request

theorem SameOutcome.symm {request request' : Request} (same : request.SameOutcome request') :
    request'.SameOutcome request :=
  ⟨same.declaredTypes.symm, same.validate.symm, same.generate.symm⟩

theorem SameOutcome.trans {first second third : Request} (same : first.SameOutcome second)
    (same' : second.SameOutcome third) : first.SameOutcome third :=
  ⟨same.declaredTypes.trans same'.declaredTypes, same.validate.trans same'.validate,
    same.generate.trans same'.generate⟩

/-- What an outcome depends on. -/
theorem SameOutcome.of_fields {request request' : Request}
    (package : Text.trim request.package = Text.trim request'.package)
    (types : request.declaredTypes = request'.declaredTypes)
    (imports : Text.distinct request.imports = Text.distinct request'.imports) :
    request.SameOutcome request' := by
  have verdict : request.validate = request'.validate := by
    rw [validate_eq, validate_eq, validPackage_congr package, types]
  have declarations : request.declarations = request'.declarations := by
    rw [Request.declarations, Request.declarations, package, types]
  refine ⟨types, verdict, ?_⟩
  rw [generate_eq, generate_eq, verdict, generatedText, generatedText, declarations, imports]

theorem declaredTypes_congr {request request' : Request}
    (recognition : request.recognition = request'.recognition)
    (types : Text.nonBlank request.types = Text.nonBlank request'.types) :
    request.declaredTypes = request'.declaredTypes := by
  rw [declaredTypes, declaredTypes, DeclaredType.ofNames_eq, DeclaredType.ofNames_eq, recognition,
    types]

/-! ## Paths -/

/-- No import path is blank. -/
def PathsFilled (request : Request) : Prop :=
  ∀ path ∈ request.imports, Text.trim path ≠ ""

instance : DecidablePred PathsFilled := fun request =>
  inferInstanceAs (Decidable (∀ path ∈ request.imports, Text.trim path ≠ ""))

/-- A blank path is dropped where paths are listed, but not where they are written. -/
example : Text.nonBlank [" "] = [] ∧ Text.distinct [" "] = [""] := by
  decide +kernel

theorem pathsFilled_ofTypes (package : String) (types : List String) :
    (ofTypes package types).PathsFilled := by
  simp [PathsFilled, ofTypes]

theorem pathsFilled_withImports (request : Request) (imports : List String) :
    (request.withImports imports).PathsFilled := by
  intro path member
  rw [Text.trim_of_mem_nonBlank member]
  exact (Text.mem_nonBlank.mp member).1

theorem pathsFilled_ofFlags (package types : String) (imports : Option String) :
    (ofFlags package types imports).PathsFilled := by
  cases imports with
  | none => exact pathsFilled_ofTypes package (Text.listed types)
  | some imports => exact pathsFilled_withImports _ _

/-! ## Edits -/

/-- A way to come by a request: building one, or changing the one there is. -/
inductive Edit
  | ofTypes (package : String) (types : List String)
  | ofFlags (package types : String) (imports : Option String)
  | withImports (imports : List String)
  | withRecognition (recognition : Recognition)
  -- here a field is set to what is given, as it is
  | setPackage (package : String)
  | setTypes (types : List String)
  | setImports (imports : List String)

namespace Edit

/-- Is every path that is set as it is filled? -/
def PathsFilled : Edit → Prop
  | setImports imports => ∀ path ∈ imports, Text.trim path ≠ ""
  | _ => True

instance : DecidablePred PathsFilled
  | setImports imports => inferInstanceAs (Decidable (∀ path ∈ imports, Text.trim path ≠ ""))
  | ofTypes .. | ofFlags .. | withImports _ | withRecognition _ | setPackage _ | setTypes _ =>
      .isTrue trivial

end Edit

/-- The request after one edit. -/
def apply (request : Request) : Edit → Request
  | .ofTypes package types => Request.ofTypes package types
  | .ofFlags package types imports => Request.ofFlags package types imports
  | .withImports imports => request.withImports imports
  | .withRecognition recognition => request.withRecognition recognition
  | .setPackage package => { request with package }
  | .setTypes types => { request with types }
  | .setImports imports => { request with imports }

/-- The request after a run of edits. -/
def edited (request : Request) (edits : List Edit) : Request :=
  edits.foldl apply request

theorem PathsFilled.apply {request : Request} (filled : request.PathsFilled) {edit : Edit}
    (fills : edit.PathsFilled) : (request.apply edit).PathsFilled := by
  cases edit with
  | ofTypes package types => exact pathsFilled_ofTypes package types
  | ofFlags package types imports => exact pathsFilled_ofFlags package types imports
  | withImports imports => exact pathsFilled_withImports request imports
  | withRecognition recognition => exact filled
  | setPackage package => exact filled
  | setTypes types => exact filled
  | setImports imports => exact fills

theorem PathsFilled.edited {request : Request} (filled : request.PathsFilled) {edits : List Edit}
    (fill : ∀ edit ∈ edits, edit.PathsFilled) : (request.edited edits).PathsFilled := by
  induction edits generalizing request with
  | nil => exact filled
  | cons edit rest ih =>
    rw [List.forall_mem_cons] at fill
    exact ih (filled.apply fill.1) fill.2

/-! ## White space -/

/-- The request with the same fields, all trimmed. -/
def trimmed (request : Request) : Request where
  package := Text.trim request.package
  types := request.types.map Text.trim
  imports := request.imports.map Text.trim
  recognition := request.recognition

/-- The request that is built from lists of the same fields. -/
def rebuilt (request : Request) : Request :=
  ((ofTypes request.package request.types).withImports request.imports).withRecognition
    request.recognition

theorem PathsFilled.rebuilt_eq {request : Request} (filled : request.PathsFilled) :
    request.rebuilt = request.trimmed := by
  have kept : Text.nonBlank request.imports = request.imports.map Text.trim := by
    refine List.filter_eq_self.mpr fun path member => ?_
    obtain ⟨written, given, rfl⟩ := List.mem_map.mp member
    simpa using filled written given
  rw [rebuilt, trimmed, withImports, kept]
  rfl

theorem sameOutcome_trimmed (request : Request) : request.SameOutcome request.trimmed := by
  refine .of_fields ?_ (declaredTypes_congr rfl ?_) ?_
  · exact (Text.trim_trim request.package).symm
  · exact Text.nonBlank_map_trim.symm
  · simp [Text.distinct, trimmed, Function.comp_def]

/-- **Only the trimmed fields count.**  A request whose paths are filled has the
outcome of the one that is built from its fields anew; so has every request that
comes about by edits with filled paths.  Requests whose fields are the same but for
white space at the ends have the same outcome, however they came about. -/
theorem outcome_of_trimmed_fields :
    (∀ request : Request, request.PathsFilled → request.SameOutcome request.rebuilt) ∧
    (∀ (start : Request) (edits : List Edit), start.PathsFilled →
      (∀ edit ∈ edits, edit.PathsFilled) →
      (start.edited edits).SameOutcome (start.edited edits).rebuilt) ∧
    ∀ request request' : Request, request.trimmed = request'.trimmed →
      request.SameOutcome request' := by
  have anew (request : Request) (filled : request.PathsFilled) :
      request.SameOutcome request.rebuilt := by
    rw [filled.rebuilt_eq]
    exact request.sameOutcome_trimmed
  refine ⟨anew, fun start edits filled fill => anew _ (filled.edited fill), ?_⟩
  intro request request' same
  have outcome := request.sameOutcome_trimmed
  rw [same] at outcome
  exact outcome.trans request'.sameOutcome_trimmed.symm

/-- White space of all kinds, blank and repeated names, and a path that was set
behind the builder's back. -/
theorem outcome_of_trimmed_fields_set_freely :
    let request : Request := ⟨" hr\n", ["a.T ", " ", "\tINT", "A.t"], [" x/y", "x/y\u00a0"], .exact⟩
    let start : Request := ofTypes "p" []
    let edits : List Edit :=
      [.ofFlags "hr " "a.T, ,int" (some " x/y,"), .setTypes ["A.T", " a.t\u3000"],
        .setImports [" z "], .withRecognition .substring, .setPackage "\tHR"]
    let request' : Request := ⟨"hr", [" a.T", "", "INT", "A.t\r"], ["x/y", "x/y"], .exact⟩
    request.PathsFilled ∧ request.SameOutcome request.rebuilt ∧
    start.PathsFilled ∧ (∀ edit ∈ edits, edit.PathsFilled) ∧
    (start.edited edits).SameOutcome (start.edited edits).rebuilt ∧
    request.trimmed = request'.trimmed ∧ request.SameOutcome request' := by
  intro request start edits request'
  obtain ⟨anew, afterEdits, alike⟩ := outcome_of_trimmed_fields
  have filled : request.PathsFilled := by decide +kernel
  have filled' : start.PathsFilled := by decide +kernel
  have fill : ∀ edit ∈ edits, edit.PathsFilled := by decide +kernel
  have same : request.trimmed = request'.trimmed := by decide +kernel
  exact ⟨filled, anew request filled, filled', fill, afterEdits start edits filled' fill, same,
    alike request request' same⟩

end Request

end ListOps
