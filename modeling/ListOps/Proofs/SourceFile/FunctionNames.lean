/-
# ListOps.Proofs.SourceFile.FunctionNames -- which functions a generated file declares

`Declarations.functionNames` lists the names from the declared types alone, by
their places: the operations on each type that is no scalar, under the name
carried at its place, then the conversions and the combinations of ordered
pairs.  `Request.functionNames_generate` says that these are the names read off
the generated file.

A family's operations declare one name for each verb, with the suffix of the
values they are used with (`Catalogue.declares_operations`).  The uses go through
the declared types and their pairs place by place, so it remains to see which
suffix is used at which places, and that no value brings in a line feed or the
bracket that ends a name.
-/
import ListOps.Proofs.Declarations
import ListOps.Proofs.SourceFile.Reading
import ListOps.Proofs.SourceFile.Verdict

namespace ListOps

set_option autoImplicit false

/-! ## The names, by places -/

namespace Catalogue

def singleVerbs : List String :=
  ["Map", "Filter", "Remove", "Some", "Every", "DropWhile", "TakeWhile", "PMap", "FilterMap",
   "Rest", "Reduce", "DropLast"]

def conversionVerbs : List String :=
  ["Map", "PMap", "FilterMap"]

def combinationVerbs : List String :=
  ["Merge", "Zip"]

end Catalogue

namespace Declarations

open Catalogue

variable (declarations : Declarations)

def singleNames : List String :=
  declarations.types.zipIdx.flatMap fun (type, i) =>
    if type.isScalar then []
    else
      let carried := lastOther declarations.package (declarations.types.take (i + 1))
      singleVerbs.map (· ++ Name.unqualified carried)

def conversionNames : List String :=
  declarations.types.zipIdx.flatMap fun (input, i) =>
    declarations.types.zipIdx.flatMap fun (output, j) =>
      if i = j ∨ input.isScalar ∧ output.isScalar then []
      else conversionVerbs.map (· ++ (input.suffix ++ output.suffix))

def combinationNames : List String :=
  declarations.types.zipIdx.flatMap fun (key, i) =>
    declarations.types.zipIdx.flatMap fun (value, j) =>
      if key.isScalar ∧ value.isScalar then []
      else
        let suffix :=
          if i ≠ j then key.suffix ++ value.suffix
          else if Text.lower key.name = Text.lower declarations.package then ""
          else key.suffix
        combinationVerbs.map (· ++ suffix)

/-- The names of all functions that are generated, in order. -/
def functionNames : List String :=
  declarations.singleNames ++ declarations.conversionNames ++ declarations.combinationNames

end Declarations

/-! ## What the operations of a family declare -/

/-- What stands in none of the given values stands in no value. -/
theorem Bindings.not_mem_value {entries : List (Placeholder × String)} {c : Char}
    (absent : ∀ entry ∈ entries, c ∉ entry.2.toList) (placeholder : Placeholder) :
    c ∉ ((ofList entries).value placeholder).toList := by
  have given (bindings : Bindings) (start : c ∉ (bindings.value placeholder).toList) :
      c ∉ ((entries.foldl (fun bindings entry => bindings.bind entry.1 entry.2)
        bindings).value placeholder).toList := by
    induction entries generalizing bindings with
    | nil => exact start
    | cons entry rest ih =>
      refine ih (fun later member => absent later (by simp [member])) _ ?_
      rw [value, get?_bind]
      split
      · exact absent entry (by simp)
      · exact start
  exact given empty (by simp [value])

namespace Catalogue

/-- The operations have these verbs, in order, and one suffix. -/
structure Named (operations : List Operation) (verbs : List String) (suffix : String) : Prop where
  names : (operations.map fun operation => (operation.verb, operation.suffix)) =
    verbs.map fun verb => (verb, suffix)
  plain : ∀ verb ∈ verbs, isPlain verb.toList = true ∧ '(' ∉ verb.toList

theorem named_single : Named Single.all singleVerbs Single.suffix :=
  ⟨rfl, by decide⟩

theorem named_conversion : Named Conversion.all conversionVerbs Conversion.suffix :=
  ⟨rfl, by decide⟩

theorem named_combination : Named Combination.all combinationVerbs Combination.suffix :=
  ⟨rfl, by decide⟩

variable {allowed : List Placeholder} {value : Placeholder → String}
  (values : ∀ placeholder, '\n' ∉ (value placeholder).toList)

include values

/-- Operations with one suffix declare it behind each of their verbs. -/
theorem declares_operations {operations : List Operation} {family : Family} {verbs : List String}
    {suffix written : String} (woven : ∀ operation ∈ operations, Code.Woven allowed operation.code)
    (named : Named operations verbs suffix) (filled : fill value suffix.toList = written.toList)
    (noBracket : '(' ∉ written.toList) :
    Declares ((operations.map (Operation.template family)).flatMap fun template =>
        fill value template.body.toList)
      (verbs.map (· ++ written)) := by
  have sameVerbs : operations.map Operation.verb = verbs := by
    simpa [Function.comp_def] using congrArg (List.map Prod.fst) named.names
  have each : ∀ operation ∈ operations, Declares (fill value operation.code.text.toList)
      [operation.verb ++ written] := by
    intro operation member
    have listed := List.mem_map_of_mem (f := fun operation => (operation.verb, operation.suffix))
      member
    rw [named.names] at listed
    obtain ⟨verb, inside, same⟩ := List.mem_map.mp listed
    cases same
    obtain ⟨plain, noBracketInVerb⟩ := named.plain _ inside
    have declared := Operation.declares (woven operation member) values plain
      (by rw [filled]; simp [noBracketInVerb, noBracket])
    rwa [filled, String.ofList_append, String.ofList_toList, String.ofList_toList] at declared
  have all := Declares.flatMap each
  rw [← List.map_eq_flatMap] at all
  rw [List.flatMap_map, ← sameVerbs, List.map_map]
  exact all

theorem declares_single {suffix : String} (given : value .nameSuffix = suffix)
    (noBracket : '(' ∉ suffix.toList) :
    Declares (single.flatMap fun template => fill value template.body.toList)
      (singleVerbs.map (· ++ suffix)) := by
  subst given
  exact declares_operations values woven_single named_single (fill_token value _) noBracket

theorem declares_conversion {suffix : String}
    (given : value .inputSuffix ++ value .outputSuffix = suffix) (noBracket : '(' ∉ suffix.toList) :
    Declares (conversion.flatMap fun template => fill value template.body.toList)
      (conversionVerbs.map (· ++ suffix)) := by
  subst given
  exact declares_operations values woven_conversion named_conversion (fill_tokens value _ _)
    noBracket

theorem declares_combination {suffix : String}
    (given : value .firstSuffix ++ value .secondSuffix = suffix) (noBracket : '(' ∉ suffix.toList) :
    Declares (combination.flatMap fun template => fill value template.body.toList)
      (combinationVerbs.map (· ++ suffix)) := by
  subst given
  exact declares_operations values woven_combination named_combination (fill_tokens value _ _)
    noBracket

end Catalogue

/-! ## What is read off a generated file -/

namespace Request

variable {request : Request}

theorem trim_package :
    Text.trim request.declarations.package = request.declarations.package :=
  Text.trim_trim request.package

theorem not_mem_package (valid : request.validate = .ok ()) {c : Char}
    (outside : Name.isWordChar c = false) : c ∉ (Text.trim request.package).toList := by
  have named := isIdentifier_iff_isPackageName.mpr (request.validate_eq_ok_iff.mp valid).1
  obtain ⟨first, rest, spelled, opens, follow⟩ := (Name.isIdentifier_iff _).mp named
  rw [spelled]
  intro inside
  rcases List.mem_cons.mp inside with rfl | later
  · simp [Name.isWordChar_of_isInitial opens] at outside
  · simp [follow _ later] at outside

theorem newline_not_mem_package (valid : request.validate = .ok ()) :
    '\n' ∉ (Text.trim request.package).toList :=
  not_mem_package valid (by decide +kernel)

section

variable (plain : ∀ type ∈ request.declaredTypes, '\n' ∉ type.name.toList ∧ '(' ∉ type.name.toList)

include plain

theorem newline_absent {type : DeclaredType} (declared : type ∈ request.declaredTypes) :
    '\n' ∉ type.valueType.toList ∧ '\n' ∉ type.suffix.toList :=
  DeclaredType.newline_absent declared (plain type declared).1

theorem bracket_not_mem_suffix {type : DeclaredType} (declared : type ∈ request.declaredTypes) :
    '(' ∉ type.suffix.toList := by
  refine (DeclaredType.absent declared (fun listed => ?_) (by decide) (plain type declared).2).2
  exact absurd (Scalar.mem_listing listed) (by decide)

theorem mem_carried {i : Nat} {c : Char}
    (inside : c ∈ (Name.unqualified (Declarations.lastOther request.declarations.package
      (request.declaredTypes.take i))).toList) : c ≠ '\n' ∧ c ≠ '(' := by
  obtain ⟨type, taken, own⟩ := Declarations.mem_lastOther _ (Name.mem_unqualified inside)
  obtain ⟨whole, noBracket⟩ := plain type (List.mem_of_mem_take taken)
  constructor <;> rintro rfl
  · exact whole own
  · exact noBracket own

theorem declares_singleUses (valid : request.validate = .ok ()) :
    Declares (TemplateUse.text request.declarations.singleUses).toList
      request.declarations.singleNames := by
  rw [TemplateUse.text, String.toList_ofList, Declarations.singleUses, TemplateUse.filled_every,
    List.flatMap_map, Declarations.flatMap_withCarried, trim_package, Declarations.singleNames]
  refine .flatMap fun entry member => ?_
  obtain ⟨type, i⟩ := entry
  have declared : type ∈ request.declaredTypes := List.fst_mem_of_mem_zipIdx member
  by_cases scalar : type.isScalar = true
  · simpa [scalar] using Declares.nil
  · simp only [scalar]
    refine Catalogue.declares_single (Bindings.not_mem_value ?_)
      (by simp [Bindings.value, Bindings.ofList]) ?_
    · simp only [List.forall_mem_cons]
      refine ⟨newline_not_mem_package valid, (plain type declared).1, ?_, by simp⟩
      exact fun inside => (mem_carried plain inside).1 rfl
    · exact fun inside => (mem_carried plain inside).2 rfl

theorem declares_conversionUses :
    Declares (TemplateUse.text request.declarations.conversionUses).toList
      request.declarations.conversionNames := by
  rw [TemplateUse.text, String.toList_ofList, Declarations.conversionUses,
    TemplateUse.filled_every, List.flatMap_map, Declarations.flatMap_pairs,
    Declarations.conversionNames]
  refine .flatMap fun first inFirst => .flatMap fun second inSecond => ?_
  have needed := Declarations.needsConversions_iff inFirst inSecond
  obtain ⟨input, i⟩ := first
  obtain ⟨output, j⟩ := second
  have inputDeclared : input ∈ request.declaredTypes := List.fst_mem_of_mem_zipIdx inFirst
  have outputDeclared : output ∈ request.declaredTypes := List.fst_mem_of_mem_zipIdx inSecond
  by_cases skipped : i = j ∨ input.isScalar = true ∧ output.isScalar = true
  · simpa [needed, skipped] using Declares.nil
  · simp only [needed, skipped, not_false_eq_true, if_true, if_false]
    refine Catalogue.declares_conversion (Bindings.not_mem_value ?_)
      (by simp [Bindings.value, Bindings.ofList, Bindings.get?_bind]) ?_
    · simp only [List.forall_mem_cons]
      exact ⟨(newline_absent plain inputDeclared).2, (newline_absent plain outputDeclared).2,
        (newline_absent plain inputDeclared).1, (newline_absent plain outputDeclared).1, by simp⟩
    · rw [String.toList_append, List.mem_append, not_or]
      exact ⟨bracket_not_mem_suffix plain inputDeclared,
        bracket_not_mem_suffix plain outputDeclared⟩

theorem declares_combinationUses :
    Declares (TemplateUse.text request.declarations.combinationUses).toList
      request.declarations.combinationNames := by
  rw [TemplateUse.text, String.toList_ofList, Declarations.combinationUses,
    TemplateUse.filled_every, List.flatMap_map, Declarations.flatMap_pairs,
    Declarations.combinationNames]
  refine .flatMap fun first inFirst => .flatMap fun second inSecond => ?_
  have suffixes := Declarations.combinationSuffixes_eq request.declarations.package inFirst inSecond
  rw [trim_package] at suffixes
  obtain ⟨key, i⟩ := first
  obtain ⟨value, j⟩ := second
  have keyDeclared : key ∈ request.declaredTypes := List.fst_mem_of_mem_zipIdx inFirst
  have valueDeclared : value ∈ request.declaredTypes := List.fst_mem_of_mem_zipIdx inSecond
  by_cases skipped : key.isScalar = true ∧ value.isScalar = true
  · simpa [Declarations.needsOperations_iff, skipped] using Declares.nil
  · simp only [Declarations.needsOperations_iff, skipped, not_false_eq_true, if_true, if_false]
    refine Catalogue.declares_combination (Bindings.not_mem_value ?_)
      (Eq.trans (by simp [Bindings.value, Bindings.ofList, Bindings.get?_bind]) suffixes) ?_
    · obtain ⟨firstWhole, secondWhole⟩ := Declarations.combinationSuffixes_absent
        request.declarations.package (newline_absent plain keyDeclared).2
        (newline_absent plain valueDeclared).2
      simp only [List.forall_mem_cons]
      exact ⟨firstWhole, secondWhole, (newline_absent plain keyDeclared).1,
        (newline_absent plain valueDeclared).1, by simp⟩
    · have noBracket := Declarations.combinationSuffixes_absent
        request.declarations.package (bracket_not_mem_suffix plain keyDeclared)
        (bracket_not_mem_suffix plain valueDeclared)
      rwa [← not_or, ← List.mem_append, ← String.toList_append, suffixes] at noBracket

end

theorem declares_request_heading (valid : request.validate = .ok ())
    (imports : ∀ path ∈ request.imports, '\n' ∉ (Text.trim path).toList) (bare : Bool) :
    Declares (SourceFile.heading request.declarations.package
      ((if bare then [] else ["sync"]) ++ Text.distinct request.imports)).toList [] := by
  have unbroken : ∀ path ∈ (if bare then [] else ["sync"]) ++ Text.distinct request.imports,
      '\n' ∉ path.toList := by
    intro path member
    rcases List.mem_append.mp member with own | imported
    · cases bare with
      | true => simp at own
      | false =>
        cases List.mem_singleton.mp own
        decide
    · obtain ⟨path, given, rfl⟩ := List.mem_map.mp (firstOccurrences_subset _ imported)
      exact imports path given
  have read := declares_heading (newline_not_mem_package valid) fun path member =>
    declares_importLine (unbroken path member)
  rwa [List.flatMap_eq_nil_iff.mpr fun _ _ => rfl] at read

/-- **A generated file declares the functions of its declared types**, and no
other line of it is mistaken for a declaration.  Names and import paths must not
break lines, and names must not hold the bracket that ends a function's name. -/
theorem functionNames_generate (request : Request) (valid : request.validate = .ok ())
    (types : ∀ type ∈ request.declaredTypes, '\n' ∉ type.name.toList ∧ '(' ∉ type.name.toList)
    (imports : ∀ path ∈ request.imports, '\n' ∉ (Text.trim path).toList) :
    ∃ file, request.generate = .ok file ∧
      file.functionNames = request.declarations.functionNames := by
  refine ⟨⟨request.generatedText⟩, by rw [generate_eq, valid], ?_⟩
  apply Declares.functionNames_eq
  have between : Declares "\n".toList [] := @Declares.quiet_line [] (by simp) (by simp)
  have heading := (declares_request_heading valid imports
    ((TemplateUse.text request.declarations.singleUses).isEmpty &&
      (TemplateUse.text request.declarations.conversionUses).isEmpty)).append
    (declares_singleUses types valid)
  have conversions := between.append (declares_conversionUses types)
  have combinations := between.append (declares_combinationUses types)
  have whole := (heading.append conversions).append combinations
  simpa [generatedText, Declarations.functionNames] using whole

/-- The package's own type goes by the bare names. -/
theorem functionNames_generate_own_type :
    let request : Request := ⟨"p", ["P", " int"], ["a/b"], .exact⟩
    request.validate = .ok () ∧
    (∀ type ∈ request.declaredTypes, '\n' ∉ type.name.toList ∧ '(' ∉ type.name.toList) ∧
    (∀ path ∈ request.imports, '\n' ∉ (Text.trim path).toList) ∧
    request.declarations.functionNames =
      ["Map", "Filter", "Remove", "Some", "Every", "DropWhile", "TakeWhile", "PMap", "FilterMap",
       "Rest", "Reduce", "DropLast", "MapPInt", "PMapPInt", "FilterMapPInt", "MapIntP", "PMapIntP",
       "FilterMapIntP", "Merge", "Zip", "MergePInt", "ZipPInt", "MergeIntP", "ZipIntP"] ∧
    ∃ file, request.generate = .ok file ∧
      file.functionNames = request.declarations.functionNames := by
  intro request
  have valid : request.validate = .ok () := by
    apply request.validate_eq_ok_iff.mpr
    exact ⟨isIdentifier_iff_isPackageName.mp (by decide +kernel), "P", by decide, by decide +kernel⟩
  have types : ∀ type ∈ request.declaredTypes,
      '\n' ∉ type.name.toList ∧ '(' ∉ type.name.toList := by decide +kernel
  have imports : ∀ path ∈ request.imports, '\n' ∉ (Text.trim path).toList := by decide +kernel
  exact ⟨valid, types, imports, by decide +kernel,
    functionNames_generate request valid types imports⟩

end Request

end ListOps
