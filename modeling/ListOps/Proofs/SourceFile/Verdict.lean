/-
# ListOps.Proofs.SourceFile.Verdict -- what is refused, and what is generated

A request fails for its own faults only: a package that cannot be written, or
no type at all.  All templates are used with their values, so validating
foretells the outcome (`Request.generate_eq`), and what is generated for scalars
fails for the package's fault alone.  `Request.generate_verdict` collects this.
-/
import ListOps.Proofs.DeclaredType
import ListOps.Proofs.Uses
import ListOps.SourceFile.Generation

namespace ListOps

set_option autoImplicit false

open Unicode

/-! ## The package -/

/-- A letter or an underscore, then letters, numbers and underscores. -/
def IsPackageName (s : String) : Prop :=
  ∃ first rest, s.toList = first :: rest ∧ (isAlphabetic first = true ∨ first = '_') ∧
    ∀ later ∈ rest, isAlphanumeric later = true ∨ later = '_'

/-- Some character stands where it may not. -/
def IsMisspelled (s : String) : Prop :=
  ∃ first rest, s.toList = first :: rest ∧
    (isAlphabetic first = false ∧ first ≠ '_' ∨
      ∃ later ∈ rest, isAlphanumeric later = false ∧ later ≠ '_')

theorem isIdentifier_iff_isPackageName {s : String} :
    Name.isIdentifier s = true ↔ IsPackageName s := by
  simp [Name.isIdentifier_iff, Name.isInitial, Name.isWordChar, IsPackageName]

theorem isMisspelled_iff {s : String} : IsMisspelled s ↔ s ≠ "" ∧ ¬ IsPackageName s := by
  rw [← isIdentifier_iff_isPackageName, Name.isIdentifier, IsMisspelled, Ne, ← String.toList_inj]
  cases s.toList with
  | nil => simp
  | cons first rest =>
    have split : (isAlphabetic first = false ∧ first ≠ '_' ∨
        ∃ later ∈ rest, isAlphanumeric later = false ∧ later ≠ '_') ↔
        ¬ (Name.isInitial first && rest.all Name.isWordChar) = true := by
      simp only [Name.isInitial, Name.isWordChar, Bool.not_eq_true, Bool.and_eq_false_iff,
        Bool.or_eq_false_iff, beq_eq_false_iff_ne, List.all_eq_false, Bool.or_eq_true, beq_iff_eq,
        Bool.not_eq_true, not_or, ne_eq]
    rw [← split]
    constructor
    · rintro ⟨_, _, same, wrong⟩
      cases same
      exact ⟨by simp, wrong⟩
    · rintro ⟨-, wrong⟩
      exact ⟨first, rest, rfl, wrong⟩

theorem not_isPackageName_empty : ¬ IsPackageName "" := by
  rintro ⟨first, rest, same, -⟩
  simp at same

theorem validPackage_eq_ok_iff {package text : String} :
    validPackage package = .ok text ↔
      IsPackageName (Text.trim package) ∧ text = Text.trim package := by
  simp only [validPackage, String.isEmpty_iff]
  split
  · rename_i empty
    simp [empty, not_isPackageName_empty]
  · split
    · rename_i identifier
      simp [isIdentifier_iff_isPackageName.mp identifier, eq_comm]
    · rename_i other
      simp [mt isIdentifier_iff_isPackageName.mpr other]

theorem validPackage_eq_error_iff {package : String} {fault : RequestFault} :
    validPackage package = .error fault ↔
      Text.trim package = "" ∧ fault = .emptyPackage ∨
      IsMisspelled (Text.trim package) ∧ fault = .invalidPackage (Text.trim package) := by
  rw [isMisspelled_iff]
  simp only [validPackage, String.isEmpty_iff]
  split
  · rename_i empty
    simp [empty, eq_comm]
  · rename_i nonempty
    split
    · rename_i identifier
      simp [nonempty, isIdentifier_iff_isPackageName.mp identifier]
    · rename_i other
      simp [nonempty, mt isIdentifier_iff_isPackageName.mpr other, eq_comm]

theorem exists_eq_ok_iff {α ε : Type} {result : Except ε α} :
    (∃ value, result = .ok value) ↔ ∀ error, result ≠ .error error := by
  cases result <;> simp

theorem isPackageName_iff_no_fault {package : String} :
    IsPackageName (Text.trim package) ↔ ∀ fault, validPackage package ≠ .error fault := by
  simp [← exists_eq_ok_iff, validPackage_eq_ok_iff]

theorem not_isPackageName_of_error {package : String} {fault : RequestFault}
    (refused : validPackage package = .error fault) : ¬ IsPackageName (Text.trim package) := by
  intro valid
  exact isPackageName_iff_no_fault.mp valid fault refused

/-! ## Requests -/

namespace Request

variable (request : Request)

theorem declaredTypes_eq_nil_iff :
    request.declaredTypes = [] ↔ ∀ name ∈ request.types, Text.trim name = "" :=
  DeclaredType.ofNames_eq_nil_iff

theorem validate_eq : request.validate =
    match validPackage request.package with
    | .error fault => .error fault
    | .ok _ => if request.declaredTypes.isEmpty then .error .emptyTypeList else .ok () := by
  rw [validate]
  cases validPackage request.package <;> rfl

theorem validate_eq_ok_iff :
    request.validate = .ok () ↔
      IsPackageName (Text.trim request.package) ∧ ∃ name ∈ request.types, Text.trim name ≠ "" := by
  rw [validate_eq]
  cases checked : validPackage request.package with
  | error fault => simp [not_isPackageName_of_error checked]
  | ok text => simp [(validPackage_eq_ok_iff.mp checked).1, declaredTypes_eq_nil_iff]

/-- The same, as it can be computed. -/
theorem validate_eq_ok (named : Name.isIdentifier (Text.trim request.package) = true)
    (declared : ∃ name ∈ request.types, Text.trim name ≠ "") : request.validate = .ok () :=
  request.validate_eq_ok_iff.mpr ⟨isIdentifier_iff_isPackageName.mp named, declared⟩

theorem validate_eq_error_iff {fault : RequestFault} :
    request.validate = .error fault ↔
      validPackage request.package = .error fault ∨
      (IsPackageName (Text.trim request.package) ∧ ∀ name ∈ request.types, Text.trim name = "") ∧
        fault = .emptyTypeList := by
  rw [validate_eq]
  cases checked : validPackage request.package with
  | error fault' => simp [not_isPackageName_of_error checked]
  | ok text =>
    rw [← declaredTypes_eq_nil_iff]
    by_cases nothing : request.declaredTypes = []
    · simp [(validPackage_eq_ok_iff.mp checked).1, nothing, @eq_comm _ fault]
    · simp [nothing]

/-- The text that is generated for a request, whether it is valid or not. -/
def generatedText : String :=
  let declarations := request.declarations
  let single := TemplateUse.text declarations.singleUses
  let conversions := TemplateUse.text declarations.conversionUses
  let own := if single.isEmpty && conversions.isEmpty then [] else ["sync"]
  let heading := SourceFile.heading declarations.package (own ++ Text.distinct request.imports)
  heading ++ single ++ "\n" ++ conversions ++ "\n" ++ TemplateUse.text declarations.combinationUses

/-- **Validating foretells the outcome.** -/
theorem generate_eq : request.generate =
    match request.validate with
    | .error fault => .error (.request fault)
    | .ok () => .ok ⟨request.generatedText⟩ := by
  simp only [generate, Declarations.single_eq_ok, Declarations.conversions_eq_ok,
    Declarations.combinations_eq_ok]
  cases request.validate <;> rfl

theorem generate_eq_request_error_iff {fault : RequestFault} :
    request.generate = .error (.request fault) ↔ request.validate = .error fault := by
  rw [generate_eq]
  cases request.validate <;> simp

theorem generate_eq_ok_iff :
    (∃ file, request.generate = .ok file) ↔ request.validate = .ok () := by
  rw [generate_eq]
  cases request.validate <;> simp

theorem generate_ne_template_error (error : TemplateError) :
    request.generate ≠ .error (.template error) := by
  rw [generate_eq]
  cases request.validate <;> simp

end Request

/-! ## Scalars -/

namespace Scalar

theorem generate_eq_error_iff {package : String} {error : GenerateError} :
    generate package = .error error ↔
      ∃ fault, validPackage package = .error fault ∧ error = .request fault := by
  simp only [generate, operations_eq_ok]
  cases validPackage package with
  | error fault =>
    show (Except.error (.request fault) : Except GenerateError SourceFile) = .error error ↔ _
    simp [eq_comm]
  | ok text =>
    show (Except.ok _ : Except GenerateError SourceFile) = .error error ↔ _
    simp

theorem generateTests_eq_error_iff {package : String} {error : GenerateError} :
    generateTests package = .error error ↔
      ∃ fault, validPackage package = .error fault ∧ error = .request fault := by
  simp only [generateTests, operationTests_eq_ok]
  cases validPackage package with
  | error fault =>
    show (Except.error (.request fault) : Except GenerateError SourceFile) = .error error ↔ _
    simp [eq_comm]
  | ok text =>
    show (Except.ok _ : Except GenerateError SourceFile) = .error error ↔ _
    simp

/-- What fails for the package's faults only, is generated for every package that
can be written. -/
theorem generated_iff {package : String} {result : Except GenerateError SourceFile}
    (errors : ∀ error, result = .error error ↔
      ∃ fault, validPackage package = .error fault ∧ error = .request fault) :
    (∃ file, result = .ok file) ↔ IsPackageName (Text.trim package) := by
  rw [exists_eq_ok_iff, isPackageName_iff_no_fault]
  constructor
  · intro never fault refused
    exact never _ ((errors _).mpr ⟨fault, refused, rfl⟩)
  · intro accepted error failed
    obtain ⟨fault, refused, -⟩ := (errors error).mp failed
    exact accepted fault refused

end Scalar

/-! ## The outcome -/

namespace Request

variable (request : Request)

theorem generate_eq_fault_iff {fault : RequestFault} :
    request.generate = .error (.request fault) ↔
      (Text.trim request.package = "" ∧ fault = .emptyPackage ∨
        IsMisspelled (Text.trim request.package) ∧
          fault = .invalidPackage (Text.trim request.package)) ∨
      (IsPackageName (Text.trim request.package) ∧ ∀ name ∈ request.types, Text.trim name = "") ∧
        fault = .emptyTypeList := by
  rw [generate_eq_request_error_iff, validate_eq_error_iff, validPackage_eq_error_iff]

/-- The faults that are found before the types are looked at. -/
theorem package_error_iff {error : GenerateError} :
    (∃ fault, validPackage request.package = .error fault ∧ error = .request fault) ↔
      request.generate = .error error ∧ error ≠ .request .emptyTypeList := by
  constructor
  · rintro ⟨fault, refused, rfl⟩
    rw [generate_eq_fault_iff]
    have found := validPackage_eq_error_iff.mp refused
    refine ⟨.inl found, fun same => ?_⟩
    cases same
    rcases found with ⟨-, other⟩ | ⟨-, other⟩ <;> cases other
  · rintro ⟨failed, other⟩
    cases error with
    | template error => exact absurd failed (request.generate_ne_template_error error)
    | request fault =>
      rw [generate_eq_request_error_iff, validate_eq_error_iff] at failed
      rcases failed with refused | ⟨-, rfl⟩
      · exact ⟨fault, refused, rfl⟩
      · exact absurd rfl other

/-- **A request fails for its own faults only.**  The trimmed package is empty,
or it is misspelled, or it can be written and all types are blank; otherwise
there is a file.  Validating gives the same verdict, no template ever fails, and
what is generated for scalars fails exactly for the package's fault. -/
theorem generate_verdict :
    (request.generate = .error (.request .emptyPackage) ↔ Text.trim request.package = "") ∧
    (∀ package, request.generate = .error (.request (.invalidPackage package)) ↔
      package = Text.trim request.package ∧ IsMisspelled package) ∧
    (request.generate = .error (.request .emptyTypeList) ↔
      IsPackageName (Text.trim request.package) ∧ ∀ name ∈ request.types, Text.trim name = "") ∧
    ((∃ file, request.generate = .ok file) ↔
      IsPackageName (Text.trim request.package) ∧ ∃ name ∈ request.types, Text.trim name ≠ "") ∧
    (∀ fault, request.generate = .error (.request fault) ↔ request.validate = .error fault) ∧
    ((∃ file, request.generate = .ok file) ↔ request.validate = .ok ()) ∧
    (∀ error, request.generate ≠ .error (.template error)) ∧
    (∀ error, Scalar.generate request.package = .error error ↔
      request.generate = .error error ∧ error ≠ .request .emptyTypeList) ∧
    (∀ error, Scalar.generateTests request.package = .error error ↔
      request.generate = .error error ∧ error ≠ .request .emptyTypeList) ∧
    ((∃ file, Scalar.generate request.package = .ok file) ↔
      IsPackageName (Text.trim request.package)) ∧
    ((∃ file, Scalar.generateTests request.package = .ok file) ↔
      IsPackageName (Text.trim request.package)) := by
  refine ⟨?_, fun package => ?_, ?_, ?_, fun fault => request.generate_eq_request_error_iff,
    request.generate_eq_ok_iff, request.generate_ne_template_error, fun error => ?_,
    fun error => ?_, Scalar.generated_iff fun _ => Scalar.generate_eq_error_iff,
    Scalar.generated_iff fun _ => Scalar.generateTests_eq_error_iff⟩
  · simp [generate_eq_fault_iff]
  · rw [generate_eq_fault_iff]
    constructor
    · rintro ((⟨-, other⟩ | ⟨misspelled, same⟩) | ⟨-, other⟩)
      · cases other
      · cases same
        exact ⟨rfl, misspelled⟩
      · cases other
    · rintro ⟨rfl, misspelled⟩
      exact .inl (.inr ⟨misspelled, rfl⟩)
  · simp [generate_eq_fault_iff]
  · rw [generate_eq_ok_iff, validate_eq_ok_iff]
  · rw [Scalar.generate_eq_error_iff, package_error_iff]
  · rw [Scalar.generateTests_eq_error_iff, package_error_iff]

end Request

end ListOps
