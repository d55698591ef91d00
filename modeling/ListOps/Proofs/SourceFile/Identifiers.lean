/-
# ListOps.Proofs.SourceFile.Identifiers -- are the declared names identifiers?

The functions of a file are those of its declared types, behind whatever the lines
that import paths declare, should a path break lines
(`Request.functionNames_generatedText`).  A verb is an identifier, so a function's
name is one exactly if its suffix is made of word characters.

Names that are carried from type to type keep their small letters and are always
right.  Suffixes are capitalised, and a type whose letter has a marked capital
spoils every name that its suffix stands in.  Every type that is no scalar has
such names, but for the package's own type on its own, which goes without
suffix (`Declarations.forall_isIdentifier_iff`).
-/
import ListOps.Proofs.Name
import ListOps.Proofs.SourceFile.Imports

namespace ListOps

set_option autoImplicit false

open Unicode

/-! ## What import lines declare -/

/-- Whole texts declare what they declare on their own. -/
theorem Declares.of_whole {s : String} (whole : Whole s) :
    Declares s.toList (SourceFile.functionNames ⟨s⟩) := by
  intro rest
  have joined := ListOps.functionNames_eq ⟨s ++ String.ofList rest⟩
  have behind := ListOps.functionNames_eq ⟨String.ofList rest⟩
  simp only [SourceFile.functionNames, String.toList_append, String.toList_ofList]
    at joined behind ⊢
  rw [← joined, ← behind, Text.lines_append whole, List.filterMap_append]

namespace SourceFile

/-- The functions that the import line of `path` declares. -/
def importNames (path : String) : List String :=
  functionNames ⟨Code.text (importLine path)⟩

theorem declares_importNames (path : String) :
    Declares (Code.text (importLine path)).toList (importNames path) := by
  refine .of_whole (Whole.join fun text member => ?_)
  obtain ⟨line, -, rfl⟩ := List.mem_map.mp member
  exact whole_print line

/-- A path that breaks no lines declares nothing. -/
theorem importNames_eq_nil {path : String} (unbroken : '\n' ∉ path.toList) :
    importNames path = [] := by
  rw [importNames]
  exact Declares.functionNames_eq (declares_importLine unbroken)

end SourceFile

namespace Request

variable {request : Request}

theorem functionNames_generatedText (valid : request.validate = .ok ())
    (plain : ∀ type ∈ request.declaredTypes, '\n' ∉ type.name.toList ∧ '(' ∉ type.name.toList) :
    SourceFile.functionNames ⟨request.generatedText⟩ =
      (request.ownImports ++ Text.distinct request.imports).flatMap SourceFile.importNames ++
        request.declarations.functionNames := by
  have heading := declares_heading (newline_not_mem_package valid)
    fun path (_ : path ∈ request.ownImports ++ Text.distinct request.imports) =>
      SourceFile.declares_importNames path
  rw [functionNames_of_declares heading (declares_singleUses plain valid)
    (declares_conversionUses plain) (declares_combinationUses plain)]
  simp [Declarations.functionNames]

end Request

/-! ## Suffixes -/

/-- Can the type's suffix stand inside an identifier? -/
def DeclaredType.Fits (type : DeclaredType) : Prop :=
  ∀ c ∈ type.suffix.toList, Name.isWordChar c = true

theorem DeclaredType.not_fits_iff {recognition : Recognition} {names : List String}
    {type : DeclaredType} (declared : type ∈ ofNames recognition names)
    (qualified : Name.IsQualified type.name) :
    ¬ type.Fits ↔ type.isScalar = false ∧
      ∃ c ∈ (Name.unqualified type.name).toList.head?, c.toNat ∈ markedCapitals := by
  cases scalar : type.isScalar with
  | true => simpa [Fits] using isWordChar_suffix_of_isScalar declared qualified scalar
  | false =>
    have named := Name.isIdentifier_unqualified qualified
    obtain ⟨c, rest, spelled, -, -⟩ := (Name.isIdentifier_iff _).mp named
    have words : ∀ d ∈ c :: rest, Name.isWordChar d = true := by
      rw [← spelled]
      exact fun d inside => Name.isWordChar_of_mem named inside
    have own : type.suffix = Name.suffix type.name := by
      rw [suffix, valueType, if_neg (by simp [scalar])]
    rw [Fits, own, Name.isWordChar_suffix_iff spelled words, spelled]
    simp

namespace Declarations

open Catalogue

theorem isIdentifier_verb {verb : String}
    (member : verb ∈ singleVerbs ++ conversionVerbs ++ combinationVerbs) :
    Name.isIdentifier verb = true := by
  have all : (singleVerbs ++ conversionVerbs ++ combinationVerbs).all Name.isIdentifier = true := by
    decide
  exact List.all_eq_true.mp all verb member

variable {declarations : Declarations}

theorem isIdentifier_of_mem_singleNames
    (qualified : ∀ type ∈ declarations.types, Name.IsQualified type.name) :
    ∀ name ∈ declarations.singleNames, Name.isIdentifier name = true := by
  intro name member
  obtain ⟨⟨type, i⟩, -, inside⟩ := List.mem_flatMap.mp member
  by_cases scalar : type.isScalar = true
  · simp [scalar] at inside
  · simp only [scalar] at inside
    obtain ⟨verb, offered, rfl⟩ := List.mem_map.mp inside
    have named : Name.isIdentifier verb = true := isIdentifier_verb (by simp [offered])
    refine (Name.isIdentifier_append_iff named).mpr fun c own => ?_
    -- what is carried is a declared name as it stands, without a capital
    rcases lastOther_cases declarations.package (declarations.types.take (i + 1)) with
      empty | ⟨carried, taken, same⟩
    · have absent := Name.mem_unqualified own
      simp [empty] at absent
    · rw [same] at own
      exact Name.isWordChar_of_mem
        (Name.isIdentifier_unqualified (qualified carried (List.mem_of_mem_take taken))) own

theorem mem_conversionNames {name : String} : name ∈ declarations.conversionNames ↔
    ∃ input ∈ declarations.types.zipIdx, ∃ output ∈ declarations.types.zipIdx,
      ¬ (input.2 = output.2 ∨ input.1.isScalar ∧ output.1.isScalar) ∧
        ∃ verb ∈ conversionVerbs, verb ++ (input.1.suffix ++ output.1.suffix) = name := by
  simp only [conversionNames, List.mem_flatMap, List.mem_ite_nil_left, List.mem_map]

theorem mem_combinationNames {name : String} : name ∈ declarations.combinationNames ↔
    ∃ key ∈ declarations.types.zipIdx, ∃ value ∈ declarations.types.zipIdx,
      ¬ (key.1.isScalar ∧ value.1.isScalar) ∧
        ∃ verb ∈ combinationVerbs, verb ++ (if key.2 ≠ value.2 then key.1.suffix ++ value.1.suffix
          else if Text.lower key.1.name = Text.lower declarations.package then ""
          else key.1.suffix) = name := by
  simp only [combinationNames, List.mem_flatMap, List.mem_ite_nil_left, List.mem_map]

theorem isIdentifier_pair_iff {verb : String} {first second : DeclaredType}
    (member : verb ∈ singleVerbs ++ conversionVerbs ++ combinationVerbs) :
    Name.isIdentifier (verb ++ (first.suffix ++ second.suffix)) = true ↔
      first.Fits ∧ second.Fits := by
  rw [Name.isIdentifier_append_iff (isIdentifier_verb member), String.toList_append,
    List.forall_mem_append]
  rfl

section

variable {first second : DeclaredType × Nat} (inFirst : first ∈ declarations.types.zipIdx)
  (inSecond : second ∈ declarations.types.zipIdx)

include inFirst

theorem eq_singleton_of_places
    (alone : ∀ other ∈ declarations.types.zipIdx, first.2 = other.2) :
    declarations.types = [first.1] := by
  generalize declarations.types = types at inFirst alone
  match types with
  | [] => simp at inFirst
  | [type] =>
    rw [List.zipIdx_singleton, List.mem_singleton] at inFirst
    rw [inFirst]
  | type :: next :: rest =>
    have atStart := alone (type, 0) (by simp)
    have behind := alone (next, 1) (by simp)
    exact absurd (atStart.symm.trans behind) Nat.zero_ne_one

include inSecond

theorem places_eq {type : DeclaredType} (alone : declarations.types = [type]) :
    first.2 = second.2 := by
  rw [alone, List.zipIdx_singleton, List.mem_singleton] at inFirst inSecond
  rw [inFirst, inSecond]

/-- Conversions take any type that is no scalar together with every other type. -/
theorem fits_of_conversionNames (apart : first.2 ≠ second.2) (other : first.1.isScalar ≠ true)
    (named : ∀ name ∈ declarations.conversionNames, Name.isIdentifier name = true) :
    first.1.Fits := by
  have member : "Map" ++ (first.1.suffix ++ second.1.suffix) ∈ declarations.conversionNames :=
    mem_conversionNames.mpr
      ⟨first, inFirst, second, inSecond, by simp [apart, other], "Map", by decide, rfl⟩
  exact ((isIdentifier_pair_iff (by decide)).mp (named _ member)).1

end

/-- Combinations take it with itself, too. -/
theorem fits_of_combinationNames {entry : DeclaredType × Nat}
    (inside : entry ∈ declarations.types.zipIdx) (other : entry.1.isScalar ≠ true)
    (foreign : Text.lower entry.1.name ≠ Text.lower declarations.package)
    (named : ∀ name ∈ declarations.combinationNames, Name.isIdentifier name = true) :
    entry.1.Fits := by
  have member : "Merge" ++ entry.1.suffix ∈ declarations.combinationNames :=
    mem_combinationNames.mpr
      ⟨entry, inside, entry, inside, by simp [other], "Merge", by decide, by simp [foreign]⟩
  have verb : Name.isIdentifier "Merge" = true := isIdentifier_verb (by decide)
  exact (Name.isIdentifier_append_iff verb).mp (named _ member)

/-- Is this the package's own type, and nothing else declared? -/
def Alone (declarations : Declarations) (type : DeclaredType) : Prop :=
  declarations.types = [type] ∧ Text.lower type.name = Text.lower declarations.package

section

variable (unfit : ∀ type ∈ declarations.types, ¬ type.Fits → declarations.Alone type)

include unfit

theorem fits_of_apart {first second : DeclaredType × Nat}
    (inFirst : first ∈ declarations.types.zipIdx) (inSecond : second ∈ declarations.types.zipIdx)
    (apart : first.2 ≠ second.2) : first.1.Fits := by
  by_contra spoiled
  have alone := (unfit first.1 (List.fst_mem_of_mem_zipIdx inFirst) spoiled).1
  exact apart (places_eq inFirst inSecond alone)

theorem isIdentifier_of_mem_conversionNames :
    ∀ name ∈ declarations.conversionNames, Name.isIdentifier name = true := by
  intro name member
  obtain ⟨input, inInput, output, inOutput, needed, verb, offered, rfl⟩ :=
    mem_conversionNames.mp member
  have apart : input.2 ≠ output.2 := fun same => needed (.inl same)
  exact (isIdentifier_pair_iff (by simp [offered])).mpr
    ⟨fits_of_apart unfit inInput inOutput apart, fits_of_apart unfit inOutput inInput apart.symm⟩

theorem isIdentifier_of_mem_combinationNames :
    ∀ name ∈ declarations.combinationNames, Name.isIdentifier name = true := by
  intro name member
  obtain ⟨key, inKey, value, inValue, -, verb, offered, rfl⟩ := mem_combinationNames.mp member
  have known : verb ∈ singleVerbs ++ conversionVerbs ++ combinationVerbs := by simp [offered]
  by_cases apart : key.2 ≠ value.2
  · rw [if_pos apart]
    exact (isIdentifier_pair_iff known).mpr
      ⟨fits_of_apart unfit inKey inValue apart, fits_of_apart unfit inValue inKey apart.symm⟩
  · rw [if_neg apart, Name.isIdentifier_append_iff (isIdentifier_verb known)]
    by_cases own : Text.lower key.1.name = Text.lower declarations.package
    · simp [own]
    · rw [if_neg own]
      by_contra spoiled
      exact own (unfit key.1 (List.fst_mem_of_mem_zipIdx inKey) spoiled).2

end

/-- **When all names of pairs are identifiers**: every suffix has to fit, except
that of the package's own type if nothing else is declared. -/
theorem forall_isIdentifier_iff
    (scalars : ∀ type ∈ declarations.types, type.isScalar = true → type.Fits) :
    (∀ name ∈ declarations.conversionNames ++ declarations.combinationNames,
        Name.isIdentifier name = true) ↔
      ∀ type ∈ declarations.types, ¬ type.Fits → declarations.Alone type := by
  rw [List.forall_mem_append]
  constructor
  · rintro ⟨conversions, combinations⟩ type declared unfit
    have other : type.isScalar ≠ true := fun scalar => unfit (scalars type declared scalar)
    obtain ⟨i, here⟩ := List.mem_iff_getElem?.mp declared
    have inside : (type, i) ∈ declarations.types.zipIdx := List.mem_zipIdx_iff_getElem?.mpr here
    -- any other place would bring in a conversion, and another package a combination
    constructor
    · refine eq_singleton_of_places inside fun entry member => ?_
      by_contra apart
      have fits := fits_of_conversionNames inside member apart other conversions
      exact unfit fits
    · by_contra foreign
      have fits := fits_of_combinationNames inside other foreign combinations
      exact unfit fits
  · intro unfit
    exact ⟨isIdentifier_of_mem_conversionNames unfit, isIdentifier_of_mem_combinationNames unfit⟩

end Declarations

namespace Request

theorem forall_mem_importNames_iff {request : Request} {keep : String → Prop} :
    (∀ name ∈ (request.ownImports ++ Text.distinct request.imports).flatMap SourceFile.importNames,
        keep name) ↔
      ∀ path ∈ request.imports, ∀ name ∈ SourceFile.importNames (Text.trim path), keep name := by
  have own : request.ownImports.flatMap SourceFile.importNames = [] := by
    rw [ownImports_eq]
    split
    · rfl
    · rw [List.flatMap_singleton]
      exact SourceFile.importNames_eq_nil (by decide)
  rw [List.flatMap_append, own, List.nil_append]
  constructor
  · intro kept path given name inside
    have asked := Text.mem_distinct.mpr (List.mem_map_of_mem given)
    exact kept name (List.mem_flatMap.mpr ⟨_, asked, inside⟩)
  · intro kept name member
    obtain ⟨path, asked, inside⟩ := List.mem_flatMap.mp member
    obtain ⟨path, given, rfl⟩ := List.mem_map.mp (Text.mem_distinct.mp asked)
    exact kept path given name inside

/-- **When all declared names are identifiers**, for qualified names: no import line
may declare anything else, and no suffix may get a marked capital unless the type
is the package's own and the only one. -/
theorem functionNames_isIdentifier_iff (request : Request) (valid : request.validate = .ok ())
    (qualified : ∀ type ∈ request.declaredTypes, Name.IsQualified type.name) :
    ∃ file, request.generate = .ok file ∧
      ((∀ name ∈ file.functionNames, Name.isIdentifier name = true) ↔
        (∀ path ∈ request.imports, ∀ name ∈ SourceFile.importNames (Text.trim path),
          Name.isIdentifier name = true) ∧
        ∀ type ∈ request.declaredTypes, type.isScalar = false →
          (∃ c ∈ (Name.unqualified type.name).toList.head?, c.toNat ∈ markedCapitals) →
          request.declaredTypes = [type] ∧
            Text.lower type.name = Text.lower (Text.trim request.package)) := by
  have plain : ∀ type ∈ request.declaredTypes, '\n' ∉ type.name.toList ∧ '(' ∉ type.name.toList :=
    fun type declared =>
      ⟨Name.not_mem_qualified (qualified type declared) (by decide +kernel) (by decide),
        Name.not_mem_qualified (qualified type declared) (by decide +kernel) (by decide)⟩
  refine ⟨⟨request.generatedText⟩, by rw [generate_eq, valid], ?_⟩
  have scalars : ∀ type ∈ request.declaredTypes, type.isScalar = true → type.Fits :=
    fun type declared =>
      DeclaredType.isWordChar_suffix_of_isScalar declared (qualified type declared)
  have single : ∀ name ∈ request.declarations.singleNames, Name.isIdentifier name = true :=
    Declarations.isIdentifier_of_mem_singleNames qualified
  rw [functionNames_generatedText valid plain, List.forall_mem_append, forall_mem_importNames_iff,
    Declarations.functionNames, List.append_assoc, List.forall_mem_append, and_iff_right single,
    Declarations.forall_isIdentifier_iff scalars]
  refine and_congr_right fun _ => forall_congr' fun type => forall_congr' fun declared => ?_
  rw [DeclaredType.not_fits_iff declared (qualified type declared), and_imp]
  rfl

/-- Small letters are carried along as they are; capitals may get longer, but stay
letters. -/
theorem functionNames_isIdentifier_own_type :
    let request : Request := ⟨"p", ["models.v1.\u00DF_2", "INT", " p"], ["fmt"], .substring⟩
    request.validate = .ok () ∧
    (∀ type ∈ request.declaredTypes, Name.IsQualified type.name) ∧
    ∃ file, request.generate = .ok file ∧
      ((∀ name ∈ file.functionNames, Name.isIdentifier name = true) ↔
        (∀ path ∈ request.imports, ∀ name ∈ SourceFile.importNames (Text.trim path),
          Name.isIdentifier name = true) ∧
        ∀ type ∈ request.declaredTypes, type.isScalar = false →
          (∃ c ∈ (Name.unqualified type.name).toList.head?, c.toNat ∈ markedCapitals) →
          request.declaredTypes = [type] ∧
            Text.lower type.name = Text.lower (Text.trim request.package)) := by
  intro request
  have valid : request.validate = .ok () :=
    Request.validate_eq_ok _ (by decide +kernel) (by decide +kernel)
  have declared : request.declaredTypes =
      [⟨"models.v1.\u00DF_2", false⟩, ⟨"INT", true⟩, ⟨"p", false⟩] := by decide +kernel
  have qualified : ∀ type ∈ request.declaredTypes, Name.IsQualified type.name := by
    rw [declared]
    simp only [List.forall_mem_cons]
    exact ⟨⟨["models", "v1", "\u00DF_2"], by simp, by decide +kernel, by decide +kernel⟩,
      ⟨["INT"], by simp, by decide +kernel, by decide +kernel⟩,
      ⟨["p"], by simp, by decide +kernel, by decide +kernel⟩, by simp⟩
  exact ⟨valid, qualified, functionNames_isIdentifier_iff request valid qualified⟩

/-- U+01F0, a `j` with a caron, has no capital of its own: a caron on its own stands
behind the capital `J`. -/
theorem functionNames_marked_capital :
    Name.isIdentifier "\u01F0" = true ∧ Name.isIdentifier "MergeJ\u030C" = false ∧
    ∃ file, Request.generate ⟨"p", ["\u01F0"], [], .exact⟩ = .ok file ∧
      "MergeJ\u030C" ∈ file.functionNames := by
  have valid : Request.validate ⟨"p", ["\u01F0"], [], .exact⟩ = .ok () :=
    Request.validate_eq_ok _ (by decide +kernel) (by decide +kernel)
  refine ⟨by decide +kernel, by decide +kernel, ⟨generatedText ⟨"p", ["\u01F0"], [], .exact⟩⟩,
    by rw [generate_eq, valid], ?_⟩
  rw [functionNames_generatedText valid (by decide +kernel)]
  exact List.mem_append_right _ (by decide +kernel)

end Request

end ListOps
