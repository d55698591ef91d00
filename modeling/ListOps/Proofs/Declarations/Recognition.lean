/-
# ListOps.Proofs.Declarations.Recognition -- laxer recognition only removes operations

Names are told apart before anybody asks which of them are scalars, so both ways of
recognition declare types of the same names in the same order
(`DeclaredType.ofNames_substring`).  What changes is that more of them are scalars.
What is carried goes by names alone (`withCarried_map`), so a type that becomes a
scalar loses its own operations and changes those of no other one; and a pair that
needs operations among the laxer types needs them among the others
(`needsConversions_of_relaxed`).  All in all: `substring_only_removes`.
-/
import ListOps.Proofs.Declarations.Blocks
import ListOps.Proofs.Recognition

namespace ListOps

set_option autoImplicit false

/-! ## Types read again -/

namespace DeclaredType

variable {names : List String} {type : DeclaredType}

/-- The type of the same name, read in the laxer way. -/
def relaxed (type : DeclaredType) : DeclaredType :=
  ofName .substring type.name

theorem trim_name {recognition : Recognition} (declared : type ∈ ofNames recognition names) :
    Text.trim type.name = type.name := by
  obtain ⟨name, -, same, -⟩ := mem_ofNames declared
  rw [same, Text.trim_trim]

theorem ofNames_substring (names : List String) :
    ofNames .substring names = (ofNames .exact names).map relaxed := by
  rw [ofNames_eq, ofNames_eq, List.map_map]
  refine List.map_congr_left fun name _ => ?_
  exact (ofName_trim .substring name).symm

section

variable (declared : type ∈ ofNames .exact names)

include declared

theorem name_relaxed : type.relaxed.name = type.name :=
  trim_name declared

theorem isScalar_relaxed (scalar : type.isScalar = true) : type.relaxed.isScalar = true := by
  obtain ⟨name, -, -, -, accepted⟩ := mem_ofNames declared
  rw [accepted] at scalar
  rw [relaxed, isScalar_ofName]
  exact Recognition.accepts_substring scalar

theorem valueType_relaxed (scalar : type.isScalar = true) :
    type.relaxed.valueType = type.valueType := by
  rw [valueType, valueType, if_pos scalar, if_pos (isScalar_relaxed declared scalar),
    name_relaxed declared]

theorem exists_spelling_eq_valueType (scalar : type.isScalar = true) :
    ∃ spelled : Scalar, type.valueType = spelled.spelling := by
  obtain ⟨name, -, -, -, accepted⟩ := mem_ofNames declared
  rw [valueType, if_pos scalar, ← trim_name declared]
  exact Recognition.exists_spelling_eq (accepted ▸ scalar)

theorem suffix_relaxed (scalar : type.isScalar = true) : type.relaxed.suffix = type.suffix := by
  rw [suffix, suffix, valueType_relaxed declared scalar]

end

end DeclaredType

/-! ## Operations -/

namespace Declarations

variable {package : String} {names : List String}

/-- Leaving out in two steps what the second step leaves out anyway. -/
theorem filter_filter_of_imp {α : Type} {entries : List α} {keep keep' : α → Bool}
    (fewer : ∀ entry ∈ entries, keep' entry = true → keep entry = true) :
    (entries.filter keep).filter keep' = entries.filter keep' := by
  rw [List.filter_filter]
  refine List.filter_congr fun entry member => ?_
  rw [Bool.eq_iff_iff, Bool.and_eq_true]
  exact and_iff_left_of_imp (fewer entry member)

theorem singleEntries_substring :
    singleEntries ⟨package, DeclaredType.ofNames .substring names⟩ =
      ((singleEntries ⟨package, DeclaredType.ofNames .exact names⟩).filter fun entry =>
        !entry.1.relaxed.isScalar).map fun entry => (entry.1.relaxed, entry.2) := by
  rw [singleEntries, singleEntries, DeclaredType.ofNames_substring]
  dsimp only
  rw [withCarried_map package fun _ declared => DeclaredType.name_relaxed declared, List.filter_map,
    filter_filter_of_imp]
  · simp only [Function.comp_def]
  · intro entry member other
    have declared := (mem_withCarried package member).1
    simp only [Bool.not_eq_true', ← Bool.not_eq_true] at other ⊢
    exact mt (DeclaredType.isScalar_relaxed declared) other

section

variable {first second : DeclaredType}
  (inFirst : first ∈ DeclaredType.ofNames .exact names)
  (inSecond : second ∈ DeclaredType.ofNames .exact names)

include inFirst inSecond

theorem needsOperations_of_relaxed
    (needed : needsOperations first.relaxed second.relaxed = true) :
    needsOperations first second = true := by
  rw [needsOperations_iff] at needed ⊢
  intro scalars
  exact needed ⟨DeclaredType.isScalar_relaxed inFirst scalars.1,
    DeclaredType.isScalar_relaxed inSecond scalars.2⟩

theorem needsConversions_of_relaxed
    (needed : needsConversions first.relaxed second.relaxed = true) :
    needsConversions first second = true := by
  rw [needsConversions, Bool.and_eq_true, DeclaredType.name_relaxed inFirst,
    DeclaredType.name_relaxed inSecond] at needed
  rw [needsConversions, Bool.and_eq_true]
  exact ⟨needed.1, needsOperations_of_relaxed inFirst inSecond needed.2⟩

end

/-- What is needed among the laxer types is needed among the others. -/
theorem filter_pairs_substring {keep : DeclaredType → DeclaredType → Bool}
    (fewer : ∀ first ∈ DeclaredType.ofNames .exact names,
      ∀ second ∈ DeclaredType.ofNames .exact names,
        keep first.relaxed second.relaxed = true → keep first second = true) :
    (pairs ⟨package, DeclaredType.ofNames .substring names⟩).filter
        (fun pair => keep pair.1 pair.2) =
      (((pairs ⟨package, DeclaredType.ofNames .exact names⟩).filter
          fun pair => keep pair.1 pair.2).filter
        fun pair => keep pair.1.relaxed pair.2.relaxed).map
          fun pair => (pair.1.relaxed, pair.2.relaxed) := by
  rw [DeclaredType.ofNames_substring, pairs_map, List.filter_map, filter_filter_of_imp]
  · simp only [Function.comp_def]
  · intro pair member needed
    obtain ⟨inFirst, inSecond⟩ := mem_pairs member
    exact fewer pair.1 inFirst pair.2 inSecond needed

/-- **Laxer recognition only removes operations.**  It declares types of the same
names.  What was a scalar stays one, with the same type of values, which is a spelling,
and the same suffix.  Of the blocks for single types, those of the types that become
scalars are missing and the others stay as they are; conversions and combinations are
made for some of the pairs that they were made for before. -/
theorem substring_only_removes (package : String) (names : List String) :
    let exact : Declarations := ⟨package, DeclaredType.ofNames .exact names⟩
    let laxer : Declarations := ⟨package, DeclaredType.ofNames .substring names⟩
    let ownBlock := fun entry : DeclaredType × String =>
      singleBlock entry.1.name (Name.unqualified entry.2)
    let combined := fun pair : DeclaredType × DeclaredType =>
      combinationBlock (combinationSuffixes package pair.1 pair.2) pair.1 pair.2
    laxer.types = exact.types.map DeclaredType.relaxed ∧
    (∀ type ∈ exact.types, type.relaxed.name = type.name ∧
      (type.isScalar = true → type.relaxed.isScalar = true ∧
        type.relaxed.valueType = type.valueType ∧ type.relaxed.suffix = type.suffix ∧
        ∃ scalar : Scalar, type.valueType = scalar.spelling)) ∧
    MadeOf exact.single ownBlock exact.singleEntries ∧
    MadeOf laxer.single ownBlock
      (exact.singleEntries.filter fun entry => !entry.1.relaxed.isScalar) ∧
    MadeOf exact.conversions (fun pair => conversionBlock pair.1 pair.2) exact.conversionPairs ∧
    MadeOf laxer.conversions (fun pair => conversionBlock pair.1.relaxed pair.2.relaxed)
      (exact.conversionPairs.filter fun pair =>
        needsConversions pair.1.relaxed pair.2.relaxed) ∧
    MadeOf exact.combinations combined exact.combinationPairs ∧
    MadeOf laxer.combinations (fun pair => combined (pair.1.relaxed, pair.2.relaxed))
      (exact.combinationPairs.filter fun pair =>
        needsOperations pair.1.relaxed pair.2.relaxed) := by
  intro exact laxer ownBlock combined
  have single := madeOf_single laxer
  rw [singleEntries_substring, madeOf_map] at single
  have conversions := madeOf_conversions laxer
  rw [conversionPairs, filter_pairs_substring fun _ inFirst _ inSecond =>
    needsConversions_of_relaxed inFirst inSecond, madeOf_map] at conversions
  have combinations := madeOf_combinations laxer
  rw [combinationPairs, filter_pairs_substring fun _ inFirst _ inSecond =>
    needsOperations_of_relaxed inFirst inSecond, madeOf_map] at combinations
  refine ⟨DeclaredType.ofNames_substring names, fun type declared => ?_, madeOf_single exact,
    single.congr fun entry member => ?_, madeOf_conversions exact, conversions,
    madeOf_combinations exact, combinations⟩
  · refine ⟨DeclaredType.name_relaxed declared, fun scalar => ?_⟩
    exact ⟨DeclaredType.isScalar_relaxed declared scalar,
      DeclaredType.valueType_relaxed declared scalar, DeclaredType.suffix_relaxed declared scalar,
      DeclaredType.exists_spelling_eq_valueType declared scalar⟩
  · have declared := (mem_withCarried package (List.mem_filter.mp
      (List.mem_filter.mp member).1).1).1
    rw [DeclaredType.name_relaxed declared]

/-- `INT` stays what it is where the laxer way makes a scalar of `Float`. -/
theorem substring_only_removes_float :
    let types := DeclaredType.ofNames .exact [" Float", "INT"]
    (DeclaredType.mk "INT" true).relaxed.valueType = "int" ∧
    types.map DeclaredType.isScalar = [false, true] ∧
    (types.map DeclaredType.relaxed).map DeclaredType.isScalar = [true, true] := by
  intro types
  have removed := substring_only_removes "float" [" Float", "INT"]
  have declared : DeclaredType.mk "INT" true ∈ types := by decide
  have stays := (removed.2.1 _ declared).2 rfl
  exact ⟨stays.2.1, by decide, by decide⟩

end Declarations

end ListOps
