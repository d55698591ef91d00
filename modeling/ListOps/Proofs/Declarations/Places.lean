/-
# ListOps.Proofs.Declarations.Places -- pairs of declared types, told by their places

Whether a pair is a type with itself is asked in two ways: conversions compare names,
combinations compare the types of values, which are in lower case for scalars.  In a
list of declared types both mean that the places are the same, since the key by which
names are told apart is lower case as well (`DeclaredType.name_eq_iff`,
`DeclaredType.valueType_eq_iff`).  So conversions are needed for pairs of two places,
and combinations leave out suffixes for pairs of one place only: `pairs_by_place`.
-/
import ListOps.Proofs.Declarations.Carried

namespace ListOps

set_option autoImplicit false

/-! ## Places -/

/-- All pairs of places in a list of `n` entries, those with the first place in front
first. -/
def places (n : Nat) : List (Fin n × Fin n) :=
  (List.finRange n).flatMap fun i => (List.finRange n).map fun j => (i, j)

/-! ## Declared types at their places -/

namespace DeclaredType

variable {recognition : Recognition} {names : List String}
  (i j : Fin (ofNames recognition names).length)

theorem mem_zipIdx_of_place {types : List DeclaredType} (k : Fin types.length) :
    (types.get k, k.val) ∈ types.zipIdx := by
  simp [List.mem_zipIdx_iff_getElem?]

theorem name_get_eq_iff :
    ((ofNames recognition names).get i).name = ((ofNames recognition names).get j).name ↔ i = j :=
  (name_eq_iff (mem_zipIdx_of_place i) (mem_zipIdx_of_place j)).trans Fin.val_inj

theorem valueType_get_eq_iff :
    ((ofNames recognition names).get i).valueType = ((ofNames recognition names).get j).valueType ↔
      i = j :=
  (valueType_eq_iff (mem_zipIdx_of_place i) (mem_zipIdx_of_place j)).trans Fin.val_inj

/-- Names tell declared types apart as well as types of values do. -/
theorem name_eq_iff_valueType_eq {first second : DeclaredType}
    (inFirst : first ∈ ofNames recognition names) (inSecond : second ∈ ofNames recognition names) :
    first.name = second.name ↔ first.valueType = second.valueType := by
  obtain ⟨i, bound, rfl⟩ := List.getElem_of_mem inFirst
  obtain ⟨j, bound', rfl⟩ := List.getElem_of_mem inSecond
  exact (name_get_eq_iff ⟨i, bound⟩ ⟨j, bound'⟩).trans
    (valueType_get_eq_iff ⟨i, bound⟩ ⟨j, bound'⟩).symm

end DeclaredType

namespace Declarations

variable (package : String)

theorem pairs_eq_map (types : List DeclaredType) :
    pairs ⟨package, types⟩ = (places types.length).map fun (i, j) => (types.get i, types.get j) := by
  calc types.flatMap (fun first => types.map fun second => (first, second))
      = ((List.finRange types.length).map types.get).flatMap fun first =>
          ((List.finRange types.length).map types.get).map fun second => (first, second) := by
        rw [List.map_get_finRange]
    _ = _ := by simp only [places, List.flatMap_map, List.map_flatMap, List.map_map]; rfl

/-- The suffixes of a pair of places: a type combined with itself is named once, and
not at all if it is called like the package. -/
def suffixesAt {types : List DeclaredType} (i j : Fin types.length) : String × String :=
  (if i = j ∧ namesPackage package (types.get i).name then "" else (types.get i).suffix,
    if i = j then "" else (types.get j).suffix)

/-- Keeping some pairs is keeping some pairs of places. -/
theorem filter_pairs_eq_map {types : List DeclaredType} {keep : DeclaredType × DeclaredType → Bool}
    {wanted : Fin types.length × Fin types.length → Bool}
    (same : ∀ i j, keep (types.get i, types.get j) = true ↔ wanted (i, j) = true) :
    (pairs ⟨package, types⟩).filter keep =
      ((places types.length).filter wanted).map fun (i, j) => (types.get i, types.get j) := by
  rw [pairs_eq_map, List.filter_map]
  refine congrArg (List.map _) (List.filter_congr fun (i, j) _ => ?_)
  exact Bool.eq_iff_iff.mpr (same i j)

theorem combinationPairs_eq_map (types : List DeclaredType) :
    combinationPairs ⟨package, types⟩ =
      ((places types.length).filter fun (i, j) =>
        ¬ ((types.get i).isScalar ∧ (types.get j).isScalar)).map
          fun (i, j) => (types.get i, types.get j) := by
  refine filter_pairs_eq_map package fun i j => ?_
  rw [decide_eq_true_iff]
  exact needsOperations_iff

section

variable (recognition : Recognition) (names : List String)

theorem conversionPairs_eq_map :
    let types := DeclaredType.ofNames recognition names
    conversionPairs ⟨package, types⟩ =
      ((places types.length).filter fun (i, j) =>
        i ≠ j ∧ ¬ ((types.get i).isScalar ∧ (types.get j).isScalar)).map
          fun (i, j) => (types.get i, types.get j) := by
  intro types
  refine filter_pairs_eq_map package fun i j => ?_
  rw [needsConversions, Bool.and_eq_true, bne_iff_ne, Ne, DeclaredType.name_get_eq_iff,
    needsOperations_iff, decide_eq_true_iff]

variable {recognition names}

theorem combinationSuffixes_eq_suffixesAt
    (i j : Fin (DeclaredType.ofNames recognition names).length) :
    combinationSuffixes package ((DeclaredType.ofNames recognition names).get i)
      ((DeclaredType.ofNames recognition names).get j) = suffixesAt package i j := by
  have member : ((DeclaredType.ofNames recognition names).get i) ∈
      DeclaredType.ofNames recognition names := List.getElem_mem i.isLt
  have lower_ := DeclaredType.lower_valueType member
  simp only [combinationSuffixes, DeclaredType.valueType_get_eq_iff, suffixesAt, namesPackage,
    lower_]
  by_cases same : i = j
  · simp only [same, if_true, true_and]
  · simp only [same, if_false, false_and]

end

/-- **Pairs are told by their places.**  Declared types have the same name exactly if
they have the same type of values, and exactly if they stand at one place.  So the
conversions are the blocks of all pairs of two places, and the combinations those of
all pairs of places, scalars with scalars left out of both; only a type combined with
itself lacks the second suffix, and at most one lacks both. -/
theorem pairs_by_place (recognition : Recognition) (names : List String) :
    let types := DeclaredType.ofNames recognition names
    (∀ i j : Fin types.length, ((types.get i).name = (types.get j).name ↔ i = j) ∧
      ((types.get i).valueType = (types.get j).valueType ↔ i = j)) ∧
    MadeOf (conversions ⟨package, types⟩)
      (fun (i, j) => conversionBlock (types.get i) (types.get j))
      ((places types.length).filter fun (i, j) =>
        i ≠ j ∧ ¬ ((types.get i).isScalar ∧ (types.get j).isScalar)) ∧
    MadeOf (combinations ⟨package, types⟩)
      (fun (i, j) => combinationBlock (suffixesAt package i j) (types.get i) (types.get j))
      ((places types.length).filter fun (i, j) =>
        ¬ ((types.get i).isScalar ∧ (types.get j).isScalar)) ∧
    (types.filter fun type => namesPackage package type.name).length ≤ 1 := by
  intro types
  have conversions := madeOf_conversions ⟨package, types⟩
  have combinations := madeOf_combinations ⟨package, types⟩
  rw [conversionPairs_eq_map, madeOf_map] at conversions
  rw [combinationPairs_eq_map, madeOf_map] at combinations
  refine ⟨fun i j => ⟨DeclaredType.name_get_eq_iff i j,
    DeclaredType.valueType_get_eq_iff i j⟩, conversions, combinations.congr fun (i, j) _ => ?_,
    length_filter_namesPackage_le_one package⟩
  exact congrArg (combinationBlock · (types.get i) (types.get j))
    (combinationSuffixes_eq_suffixesAt package i j)

end Declarations

end ListOps
