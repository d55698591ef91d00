/-
# ListOps.Proofs.Declarations -- declared types and their pairs, place by place

Single types and pairs of types are gone through by places
(`flatMap_withCarried`, `flatMap_pairs`).  The name that is carried along is, at
each place, that of the last type so far that is not called like the package
(`foldl_carry_eq_lastOther`).  Whether a pair needs operations and how they are
named depends on whether both types are scalars and stand at one place
(`needsConversions_iff`, `combinationSuffixes_eq`).
-/
import ListOps.Declarations
import ListOps.Proofs.DeclaredType

namespace ListOps.Declarations

set_option autoImplicit false

/-! ## Going through lists -/

section

variable {α β : Type}

theorem flatMap_filter (keep : α → Bool) (text : α → List β) (entries : List α) :
    (entries.filter keep).flatMap text =
      entries.flatMap fun entry => if keep entry then text entry else [] := by
  induction entries with
  | nil => rfl
  | cons entry rest ih =>
    by_cases kept : keep entry = true
    · simp [kept, ih]
    · simp [kept, ih]

theorem flatMap_zipIdx (text : α → List β) (entries : List α) :
    (entries.zipIdx.flatMap fun entry => text entry.1) = entries.flatMap text := by
  rw [← List.flatMap_map Prod.fst text, List.zipIdx_map_fst]

end

/-! ## The carried name -/

/-- The name of the last type that is not called like the package, or nothing if
all are. -/
def lastOther (package : String) (types : List DeclaredType) : String :=
  let others := types.filter fun type => Text.lower type.name != Text.lower package
  (others.getLast?.map DeclaredType.name).getD ""

variable (package : String)

theorem withCarried_eq (carried : String) (types : List DeclaredType) :
    withCarried package carried types = types.zipIdx.map fun entry =>
      (entry.1, (types.take (entry.2 + 1)).foldl (carry package) carried) := by
  induction types generalizing carried with
  | nil => rfl
  | cons type rest ih =>
    rw [withCarried, ih, List.zipIdx_cons, List.zipIdx_succ]
    simp

theorem foldl_carry (carried : String) (types : List DeclaredType) :
    types.foldl (carry package) carried =
      ((types.filter fun type => !namesPackage package type.name).getLast?.map
        DeclaredType.name).getD carried := by
  induction types generalizing carried with
  | nil => rfl
  | cons type rest ih =>
    rw [List.foldl_cons, ih, carry]
    by_cases named : namesPackage package type.name = true
    · simp [named]
    · rw [if_neg named, List.filter_cons_of_pos (by simpa using named), List.getLast?_cons]
      cases (rest.filter fun type => !namesPackage package type.name).getLast? <;> rfl

theorem foldl_carry_eq_lastOther (types : List DeclaredType) :
    types.foldl (carry package) "" = lastOther (Text.trim package) types := by
  simp only [foldl_carry, lastOther, namesPackage, bne]

/-- What is carried depends on names only. -/
theorem withCarried_map {types : List DeclaredType} {reread : DeclaredType → DeclaredType}
    (named : ∀ type ∈ types, (reread type).name = type.name) (carried : String) :
    withCarried package carried (types.map reread) =
      (withCarried package carried types).map fun entry => (reread entry.1, entry.2) := by
  induction types generalizing carried with
  | nil => rfl
  | cons type rest ih =>
    rw [List.forall_mem_cons] at named
    have own : carry package carried (reread type) = carry package carried type := by
      rw [carry, carry, named.1]
    rw [List.map_cons, withCarried, withCarried, own, ih named.2, List.map_cons]

/-- Going through the types that are no scalars, with what is carried. -/
theorem flatMap_withCarried {β : Type} (types : List DeclaredType)
    (text : DeclaredType × String → List β) :
    ((withCarried package "" types).filter fun entry => !entry.1.isScalar).flatMap text =
      types.zipIdx.flatMap fun entry =>
        if entry.1.isScalar then []
        else text (entry.1, lastOther (Text.trim package) (types.take (entry.2 + 1))) := by
  rw [flatMap_filter, withCarried_eq, List.flatMap_map]
  congr
  funext entry
  rw [foldl_carry_eq_lastOther]
  by_cases scalar : entry.1.isScalar = true
  · simp [scalar]
  · simp [scalar]

theorem lastOther_cases (types : List DeclaredType) :
    lastOther package types = "" ∨ ∃ type ∈ types, lastOther package types = type.name := by
  simp only [lastOther]
  cases last : (types.filter fun type => Text.lower type.name != Text.lower package).getLast? with
  | none => exact .inl rfl
  | some type => exact .inr ⟨type, (List.mem_filter.mp (List.mem_of_getLast? last)).1, rfl⟩

theorem mem_lastOther {c : Char} {types : List DeclaredType}
    (inside : c ∈ (lastOther package types).toList) : ∃ type ∈ types, c ∈ type.name.toList := by
  rcases lastOther_cases package types with empty | ⟨type, member, same⟩
  · simp [empty] at inside
  · exact ⟨type, member, same ▸ inside⟩

theorem mem_withCarried {entry : DeclaredType × String} {types : List DeclaredType}
    (member : entry ∈ withCarried package "" types) :
    entry.1 ∈ types ∧ (entry.2 = "" ∨ ∃ type ∈ types, entry.2 = type.name) := by
  rw [withCarried_eq] at member
  obtain ⟨place, inside, rfl⟩ := List.mem_map.mp member
  refine ⟨List.fst_mem_of_mem_zipIdx inside, ?_⟩
  rw [foldl_carry_eq_lastOther]
  rcases lastOther_cases (Text.trim package) (types.take (place.2 + 1)) with
    empty | ⟨type, taken, same⟩
  · exact .inl empty
  · exact .inr ⟨type, List.mem_of_mem_take taken, same⟩

theorem exists_withCarried (carried : String) {types : List DeclaredType} {type : DeclaredType}
    (member : type ∈ types) : ∃ name, (type, name) ∈ withCarried package carried types := by
  obtain ⟨i, here⟩ := List.mem_iff_getElem?.mp member
  rw [withCarried_eq]
  exact ⟨_, List.mem_map.mpr ⟨(type, i), List.mem_zipIdx_iff_getElem?.mpr here, rfl⟩⟩

/-! ## Pairs -/

theorem mem_pairs {declarations : Declarations} {pair : DeclaredType × DeclaredType}
    (member : pair ∈ declarations.pairs) :
    pair.1 ∈ declarations.types ∧ pair.2 ∈ declarations.types := by
  obtain ⟨first, declared, paired⟩ := List.mem_flatMap.mp member
  obtain ⟨second, declared', rfl⟩ := List.mem_map.mp paired
  exact ⟨declared, declared'⟩

theorem pairs_map (types : List DeclaredType) (reread : DeclaredType → DeclaredType) :
    pairs ⟨package, types.map reread⟩ =
      (pairs ⟨package, types⟩).map fun pair => (reread pair.1, reread pair.2) := by
  simp [pairs, List.flatMap_map, List.map_flatMap, Function.comp_def]

/-- Going through the pairs that are kept is going through two places. -/
theorem flatMap_pairs {β : Type} (declarations : Declarations)
    (keep : DeclaredType × DeclaredType → Bool) (text : DeclaredType × DeclaredType → List β) :
    (declarations.pairs.filter keep).flatMap text =
      declarations.types.zipIdx.flatMap fun first =>
        declarations.types.zipIdx.flatMap fun second =>
          if keep (first.1, second.1) then text (first.1, second.1) else [] := by
  rw [flatMap_filter, pairs, List.flatMap_assoc, ← flatMap_zipIdx]
  simp only [List.flatMap_map]
  congr
  funext first
  exact (flatMap_zipIdx (fun second =>
    if keep (first.1, second) then text (first.1, second) else []) declarations.types).symm

theorem needsOperations_iff {first second : DeclaredType} :
    needsOperations first second = true ↔ ¬ (first.isScalar = true ∧ second.isScalar = true) := by
  rw [needsOperations, ← Bool.and_eq_true, Bool.not_eq_true, Bool.not_eq_true']

theorem combinationSuffixes_absent (package : String) {key value : DeclaredType} {c : Char}
    (inKey : c ∉ key.suffix.toList) (inValue : c ∉ value.suffix.toList) :
    c ∉ (combinationSuffixes package key value).1.toList ∧
      c ∉ (combinationSuffixes package key value).2.toList := by
  unfold combinationSuffixes
  split
  · split <;> simp [inKey]
  · simp [inKey, inValue]

variable {recognition : Recognition} {names : List String} {first second : DeclaredType × Nat}
  (inFirst : first ∈ (DeclaredType.ofNames recognition names).zipIdx)
  (inSecond : second ∈ (DeclaredType.ofNames recognition names).zipIdx)

include inFirst inSecond

theorem needsConversions_iff :
    needsConversions first.1 second.1 = true ↔
      ¬ (first.2 = second.2 ∨ first.1.isScalar = true ∧ second.1.isScalar = true) := by
  rw [needsConversions, Bool.and_eq_true, bne_iff_ne, Ne,
    DeclaredType.name_eq_iff inFirst inSecond, needsOperations_iff, not_or]

/-- The suffix of a combination, by places. -/
theorem combinationSuffixes_eq :
    (combinationSuffixes package first.1 second.1).1 ++
        (combinationSuffixes package first.1 second.1).2 =
      if first.2 ≠ second.2 then first.1.suffix ++ second.1.suffix
      else if Text.lower first.1.name = Text.lower (Text.trim package) then ""
      else first.1.suffix := by
  have lower_ := DeclaredType.lower_valueType (List.fst_mem_of_mem_zipIdx inFirst)
  by_cases same : first.2 = second.2
  · simp only [combinationSuffixes, DeclaredType.valueType_eq_iff inFirst inSecond, same,
      namesPackage, lower_, beq_iff_eq, ne_eq, not_true_eq_false, if_true, if_false]
    split <;> simp
  · simp only [combinationSuffixes, DeclaredType.valueType_eq_iff inFirst inSecond, same, ne_eq,
      not_false_eq_true, if_true, if_false]

end ListOps.Declarations
