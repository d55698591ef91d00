/-
# ListOps.Proofs.Declarations.Spelling -- the spelling of a scalar shows nowhere in pairs

Operations on two types see a type by its suffix and by the type of its values, which
for scalars is in lower case.  Only conversions look at names, to leave out the type
itself, and among declared types that is the same as looking at the types of values
(`needsConversions_canonical`).  So they see the canonical types only
(`conversionUses_canonical`, `combinationUses_canonical`), and these do not change when
scalars are written differently (`canonical_respelled`): the key by which names are
told apart is lower case too, so the same names are kept.
-/
import ListOps.Proofs.Declarations.Places
import ListOps.Proofs.Recognition

namespace ListOps

set_option autoImplicit false

/-- The second names are the first ones, where some that count as scalars are trimmed
and in lower case. -/
def Respelled (recognition : Recognition) : List String → List String → Prop :=
  List.Forall₂ fun name name' =>
    name' = name ∨ recognition.accepts name = true ∧ name' = Text.lower (Text.trim name)

/-! ## Canonical types -/

namespace DeclaredType

variable {recognition : Recognition} {names names' : List String}

theorem lower_trim_eq {name name' : String}
    (same : (ofName recognition name).canonical = (ofName recognition name').canonical) :
    Text.lower (Text.trim name) = Text.lower (Text.trim name') := by
  have values : (ofName recognition name).valueType = (ofName recognition name').valueType :=
    congrArg DeclaredType.name same
  have lower_ := congrArg Text.lower values
  rwa [lower_valueType_ofName, lower_valueType_ofName] at lower_

/-- Names of the same canonical types declare lists of the same canonical types. -/
theorem canonical_congr (same : List.Forall₂ (fun name name' =>
      (ofName recognition name).canonical = (ofName recognition name').canonical) names names') :
    (ofNames recognition names).map canonical = (ofNames recognition names').map canonical := by
  let Alike (spelling spelling' : String) : Prop := Text.lower spelling = Text.lower spelling' ∧
    (ofName recognition spelling).canonical = (ofName recognition spelling').canonical
  have trimmed : List.Forall₂ Alike (names.map Text.trim) (names'.map Text.trim) := by
    rw [List.forall₂_map_left_iff, List.forall₂_map_right_iff]
    refine same.imp fun name name' same => ⟨lower_trim_eq same, ?_⟩
    rwa [ofName_trim, ofName_trim]
  have distinct : List.Forall₂ Alike (Text.distinctIgnoringCase names)
      (Text.distinctIgnoringCase names') :=
    forall₂_firstOccurrencesFrom (fun _ _ alike => alike.1) trimmed []
  have blank {spelling spelling' : String} (alike : Alike spelling spelling') :
      (!spelling.isEmpty) = true ↔ (!spelling'.isEmpty) = true := by
    rw [Text.isEmpty_congr alike.1]
  have kept : List.Forall₂ Alike
      ((Text.distinctIgnoringCase names).filter fun spelling => !spelling.isEmpty)
      ((Text.distinctIgnoringCase names').filter fun spelling => !spelling.isEmpty) :=
    List.rel_filter (fun _ _ alike => blank alike) distinct
  rw [ofNames, ofNames, List.map_map, List.map_map, ← List.forall₂_eq_eq_eq,
    List.forall₂_map_left_iff, List.forall₂_map_right_iff]
  exact kept.imp fun _ _ alike => alike.2

theorem canonical_respelled (respelled : Respelled recognition names names') :
    (ofNames recognition names').map canonical = (ofNames recognition names).map canonical := by
  refine (canonical_congr (respelled.imp fun name name' same => ?_)).symm
  rcases same with rfl | ⟨accepted, rfl⟩
  · rfl
  · rw [← valueType_ofName accepted, ofName_valueType, canonical_canonical]

end DeclaredType

/-! ## Pairs of canonical types -/

namespace Declarations

variable {recognition : Recognition} {names : List String} {first second : DeclaredType}

theorem needsConversions_canonical (inFirst : first ∈ DeclaredType.ofNames recognition names)
    (inSecond : second ∈ DeclaredType.ofNames recognition names) :
    needsConversions first.canonical second.canonical = needsConversions first second := by
  have differ : (first.valueType != second.valueType) = (first.name != second.name) := by
    rw [Bool.eq_iff_iff, bne_iff_ne, bne_iff_ne, Ne, Ne,
      DeclaredType.name_eq_iff_valueType_eq inFirst inSecond]
  rw [needsConversions, needsConversions, ← differ]
  rfl

theorem conversionBindings_canonical (first second : DeclaredType) :
    conversionBindings first.canonical second.canonical = conversionBindings first second := by
  simp [conversionBindings]

theorem combinationBindings_canonical (package : String) (first second : DeclaredType) :
    combinationBindings package first.canonical second.canonical =
      combinationBindings package first second := by
  simp [combinationBindings, combinationSuffixes]

variable (package : String)

theorem conversionUses_canonical (recognition : Recognition) (names : List String) :
    conversionUses ⟨package, (DeclaredType.ofNames recognition names).map .canonical⟩ =
      conversionUses ⟨package, DeclaredType.ofNames recognition names⟩ := by
  have needed : ∀ pair ∈ pairs ⟨package, DeclaredType.ofNames recognition names⟩,
      needsConversions pair.1.canonical pair.2.canonical = needsConversions pair.1 pair.2 := by
    intro pair member
    obtain ⟨inFirst, inSecond⟩ := mem_pairs member
    exact needsConversions_canonical inFirst inSecond
  rw [conversionUses, conversionUses, pairs_map, List.filter_map, List.map_map]
  simp only [Function.comp_def, conversionBindings_canonical]
  rw [List.filter_congr needed]

theorem combinationUses_canonical (types : List DeclaredType) :
    combinationUses ⟨package, types.map .canonical⟩ = combinationUses ⟨package, types⟩ := by
  rw [combinationUses, combinationUses, pairs_map, List.filter_map, List.map_map]
  simp only [Function.comp_def, combinationBindings_canonical]
  rfl

/-- **The spelling of a scalar shows nowhere in operations on two types.**  If some
names that count as scalars are trimmed and put in lower case, the same types count as
scalars, with the same types of values and the same suffixes, and the conversions and
the combinations are the same text.  Reading a type of values gives a type that counts
as a scalar if the first one did and has that type of values. -/
theorem pairs_ignore_spelling (recognition : Recognition) :
    (∀ names names' : List String, Respelled recognition names names' →
      let types := DeclaredType.ofNames recognition names
      let types' := DeclaredType.ofNames recognition names'
      types'.map DeclaredType.isScalar = types.map DeclaredType.isScalar ∧
      types'.map DeclaredType.valueType = types.map DeclaredType.valueType ∧
      types'.map DeclaredType.suffix = types.map DeclaredType.suffix ∧
      (∃ text, conversions ⟨package, types⟩ = .ok text ∧
        conversions ⟨package, types'⟩ = .ok text) ∧
      ∃ text, combinations ⟨package, types⟩ = .ok text ∧
        combinations ⟨package, types'⟩ = .ok text) ∧
    ∀ name : String,
      let type := DeclaredType.ofName recognition name
      (DeclaredType.ofName recognition type.valueType).isScalar = type.isScalar ∧
      (DeclaredType.ofName recognition type.valueType).valueType = type.valueType := by
  constructor
  · intro names names' respelled types types'
    have same : types'.map DeclaredType.canonical = types.map DeclaredType.canonical :=
      DeclaredType.canonical_respelled respelled
    have seen {β : Type} {f : DeclaredType → β} (canonical : ∀ type, f type.canonical = f type) :
        types'.map f = types.map f := by
      simpa [Function.comp_def, canonical] using congrArg (List.map f) same
    refine ⟨seen fun _ => rfl, seen DeclaredType.valueType_canonical,
      seen DeclaredType.suffix_canonical, ?_, ?_⟩
    · obtain ⟨blocks, -, made⟩ := madeOf_conversions ⟨package, types⟩
      refine ⟨String.join blocks, made, ?_⟩
      rw [← made, conversions, conversions, ← conversionUses_canonical, same,
        conversionUses_canonical]
    · obtain ⟨blocks, -, made⟩ := madeOf_combinations ⟨package, types⟩
      refine ⟨String.join blocks, made, ?_⟩
      rw [← made, combinations, combinations, ← combinationUses_canonical, same,
        combinationUses_canonical]
  · intro name type
    rw [DeclaredType.ofName_valueType, DeclaredType.valueType_canonical]
    exact ⟨rfl, rfl⟩

/-- Other pieces of the listing are respelled as well as spellings. -/
theorem pairs_ignore_spelling_pieces :
    let types := DeclaredType.ofNames .substring [" In ", "Employee", "T, I"]
    let types' := DeclaredType.ofNames .substring ["in", "Employee", "t, i"]
    types ≠ types' ∧ conversions ⟨"p", types⟩ = conversions ⟨"p", types'⟩ ∧
      combinations ⟨"p", types⟩ = combinations ⟨"p", types'⟩ := by
  have respelled : Respelled .substring [" In ", "Employee", "T, I"] ["in", "Employee", "t, i"] :=
    .cons (.inr (by decide)) <| .cons (.inl rfl) <| .cons (.inr (by decide)) .nil
  obtain ⟨-, -, -, ⟨_, converted, converted'⟩, _, combined, combined'⟩ :=
    (pairs_ignore_spelling "p" .substring).1 _ _ respelled
  exact ⟨by decide, converted.trans converted'.symm, combined.trans combined'.symm⟩

end Declarations

end ListOps
