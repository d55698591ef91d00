/-
# ListOps.Proofs.DeclaredType -- what is known of declared types

A list of declared types holds no blank name and no two names that differ in
case only.  A scalar's lower case stands in the listing of all spellings, so it
is plain ASCII in lower case; hence the type of values has the lower case of the
name (`lower_valueType`).  So comparing names or value types of a list amounts to
comparing places (`name_eq_iff`, `valueType_eq_iff`).
-/
import ListOps.DeclaredType
import ListOps.Proofs.FirstOccurrences
import ListOps.Proofs.Text

namespace ListOps

set_option autoImplicit false

namespace Scalar

theorem spelling_infix_listing (scalar : Scalar) :
    scalar.spelling.toList <:+: listing.toList := by
  rw [listing, String.toList_intercalate, List.map_map]
  exact Chars.infix_intercalate (List.mem_map_of_mem (f := String.toList ∘ spelling) scalar.mem_all)

/-- The characters that spellings are written with: digits and small letters. -/
def isSpellingChar (c : Char) : Bool :=
  (0x30 ≤ c.toNat && c.toNat ≤ 0x39) || (0x61 ≤ c.toNat && c.toNat ≤ 0x7A)

theorem spelling_all (scalar : Scalar) : scalar.spelling.toList.all isSpellingChar = true := by
  cases scalar <;> decide

/-- The listing adds commas and spaces. -/
theorem mem_listing {c : Char} (inside : c ∈ listing.toList) :
    isSpellingChar c = true ∨ c ∈ [',', ' '] := by
  rw [listing, String.toList_intercalate, List.map_map] at inside
  rcases Chars.mem_intercalate inside with between | ⟨piece, member, within⟩
  · exact .inr between
  · obtain ⟨scalar, -, rfl⟩ := List.mem_map.mp member
    exact .inl (List.all_eq_true.mp scalar.spelling_all c within)

theorem isLower_of_mem_listing {c : Char} (inside : c ∈ listing.toList) :
    Chars.isLower c = true := by
  apply Chars.isLower_of_ascii
  rcases mem_listing inside with spelled | between
  · simp only [isSpellingChar, Bool.or_eq_true, Bool.and_eq_true, decide_eq_true_eq] at spelled
    omega
  · simp only [List.mem_cons, List.not_mem_nil, or_false] at between
    rcases between with rfl | rfl <;> exact .inl (by decide)

end Scalar

/-- Whatever counts as a scalar stands in the listing once it is in lower case. -/
theorem Recognition.lower_infix_listing {recognition : Recognition} {name : String}
    (accepted : recognition.accepts name = true) :
    (Text.lower (Text.trim name)).toList <:+: Scalar.listing.toList := by
  cases recognition with
  | exact =>
    rw [accepts, Scalar.ofSpelling?, List.find?_isSome] at accepted
    obtain ⟨scalar, -, spelled⟩ := accepted
    rw [← of_decide_eq_true spelled]
    exact scalar.spelling_infix_listing
  | substring =>
    rw [accepts, Text.hasPart, Chars.hasPart_iff] at accepted
    exact accepted

namespace DeclaredType

variable {recognition : Recognition} {names : List String} {type first second : DeclaredType}

theorem ofName_trim (recognition : Recognition) (name : String) :
    ofName recognition (Text.trim name) = ofName recognition name := by
  simp [ofName]

/-- A type stands for one of the declared names. -/
theorem mem_ofNames (declared : type ∈ ofNames recognition names) :
    ∃ name ∈ names, type.name = Text.trim name ∧ type.name ≠ "" ∧
      type.isScalar = recognition.accepts type.name := by
  obtain ⟨spelling, kept, rfl⟩ := List.mem_map.mp declared
  rw [List.mem_filter] at kept
  obtain ⟨name, member, rfl⟩ := List.mem_map.mp (firstOccurrences_subset _ kept.1)
  exact ⟨name, member, by simp [ofName], by simpa [ofName] using kept.2, by simp [ofName]⟩

/-- Only the names that are not blank count, and of those the first ones up to
case. -/
theorem ofNames_eq (recognition : Recognition) (names : List String) :
    ofNames recognition names =
      (firstOccurrences Text.lower (Text.nonBlank names)).map (ofName recognition) := by
  rw [ofNames, Text.distinctIgnoringCase, Text.nonBlank, filter_firstOccurrences]
  intro first second same
  rw [Text.isEmpty_congr same]

/-- Nothing is declared exactly if all names are blank. -/
theorem ofNames_eq_nil_iff :
    ofNames recognition names = [] ↔ ∀ name ∈ names, Text.trim name = "" := by
  rw [ofNames, List.map_eq_nil_iff, List.filter_eq_nil_iff]
  constructor
  · intro blank name member
    have inside : Text.trim name ∈ names.map Text.trim := List.mem_map_of_mem member
    obtain ⟨kept, inside, same⟩ :=
      (exists_firstOccurrence inside : ∃ kept ∈ Text.distinctIgnoringCase names,
        Text.lower kept = Text.lower (Text.trim name))
    have empty : kept = "" := by simpa using blank kept inside
    rw [empty, Text.lower_eq_empty_iff.mpr rfl, eq_comm, Text.lower_eq_empty_iff] at same
    exact same
  · intro blank spelling kept
    obtain ⟨name, member, rfl⟩ := List.mem_map.mp (firstOccurrences_subset _ kept)
    simp [blank name member]

/-- No two declared types differ in case only. -/
theorem ofNames_pairwise : (ofNames recognition names).Pairwise fun first second =>
    Text.lower first.name ≠ Text.lower second.name := by
  rw [ofNames, List.pairwise_map]
  refine ((firstOccurrences_pairwise _).filter _).imp_of_mem fun {a b} inA inB different => ?_
  obtain ⟨a, -, rfl⟩ := List.mem_map.mp (firstOccurrences_subset _ (List.mem_filter.mp inA).1)
  obtain ⟨b, -, rfl⟩ := List.mem_map.mp (firstOccurrences_subset _ (List.mem_filter.mp inB).1)
  simpa [ofName] using different

/-- The value type of a scalar stands in the listing of all spellings. -/
theorem valueType_ofName_infix_listing {name : String}
    (scalar : (ofName recognition name).isScalar = true) :
    (ofName recognition name).valueType.toList <:+: Scalar.listing.toList := by
  have accepted := Recognition.lower_infix_listing scalar
  rw [Text.trim_trim] at accepted
  rwa [valueType, if_pos scalar]

theorem lower_valueType_ofName (recognition : Recognition) (name : String) :
    Text.lower (ofName recognition name).valueType =
      Text.lower (ofName recognition name).name := by
  by_cases scalar : (ofName recognition name).isScalar = true
  · have spelled := valueType_ofName_infix_listing scalar
    rw [Text.lower_eq_self fun c member =>
      Scalar.isLower_of_mem_listing (spelled.subset member), valueType, if_pos scalar]
  · rw [valueType, if_neg scalar]

theorem valueType_infix_listing (declared : type ∈ ofNames recognition names)
    (scalar : type.isScalar = true) : type.valueType.toList <:+: Scalar.listing.toList := by
  obtain ⟨spelling, -, rfl⟩ := List.mem_map.mp declared
  exact valueType_ofName_infix_listing scalar

theorem lower_valueType (declared : type ∈ ofNames recognition names) :
    Text.lower type.valueType = Text.lower type.name := by
  obtain ⟨spelling, -, rfl⟩ := List.mem_map.mp declared
  exact lower_valueType_ofName recognition spelling

/-- A character that neither the name nor the listing holds, and that comes
before the capitals, is in nothing that is made of the name. -/
theorem absent {c : Char} (declared : type ∈ ofNames recognition names)
    (unlisted : c ∉ Scalar.listing.toList) (low : c.toNat < 'A'.toNat)
    (unnamed : c ∉ type.name.toList) : c ∉ type.valueType.toList ∧ c ∉ type.suffix.toList := by
  have inValue : c ∉ type.valueType.toList := by
    intro inside
    by_cases scalar : type.isScalar = true
    · exact unlisted ((valueType_infix_listing declared scalar).subset inside)
    · rw [valueType, if_neg scalar] at inside
      exact unnamed inside
  refine ⟨inValue, fun inside => ?_⟩
  rcases Name.mem_suffix inside with own | capital
  · exact inValue own
  · omega

/-- Neither does a line feed come in. -/
theorem newline_absent (declared : type ∈ ofNames recognition names)
    (unbroken : '\n' ∉ type.name.toList) :
    '\n' ∉ type.valueType.toList ∧ '\n' ∉ type.suffix.toList := by
  refine absent declared (fun listed => ?_) (by decide) unbroken
  exact absurd (Scalar.mem_listing listed) (by decide)

/-! ## Places -/

/-- Where all keys are different, they tell places apart. -/
theorem key_eq_iff {α κ : Type} {key : α → κ} {entries : List α}
    (different : entries.Pairwise fun a b => key a ≠ key b) {first second : α × Nat}
    (inFirst : first ∈ entries.zipIdx) (inSecond : second ∈ entries.zipIdx) :
    key first.1 = key second.1 ↔ first.2 = second.2 := by
  have nodup : (entries.map key).Nodup := List.pairwise_map.mpr different
  have found {entry : α × Nat} (inside : entry ∈ entries.zipIdx) :
      (entries.map key)[entry.2]? = some (key entry.1) := by
    rw [List.getElem?_map, List.mem_zipIdx_iff_getElem?.mp inside]
    rfl
  obtain ⟨bound, -⟩ := List.getElem?_eq_some_iff.mp (found inFirst)
  rw [← List.getElem?_inj bound nodup, found inFirst, found inSecond, Option.some_inj]

section

variable {first second : DeclaredType × Nat}
  (inFirst : first ∈ (ofNames recognition names).zipIdx)
  (inSecond : second ∈ (ofNames recognition names).zipIdx)

include inFirst inSecond

/-- Declared types whose names agree up to case stand at one place. -/
theorem lower_name_eq_iff :
    Text.lower first.1.name = Text.lower second.1.name ↔ first.2 = second.2 :=
  key_eq_iff ofNames_pairwise inFirst inSecond

theorem eq_of_place_eq (same : first.2 = second.2) : first.1 = second.1 := by
  have found := List.mem_zipIdx_iff_getElem?.mp inFirst
  rw [same, List.mem_zipIdx_iff_getElem?.mp inSecond] at found
  exact (Option.some_inj.mp found).symm

theorem name_eq_iff : first.1.name = second.1.name ↔ first.2 = second.2 := by
  constructor
  · intro same
    exact (lower_name_eq_iff inFirst inSecond).mp (congrArg Text.lower same)
  · intro same
    rw [eq_of_place_eq inFirst inSecond same]

theorem valueType_eq_iff : first.1.valueType = second.1.valueType ↔ first.2 = second.2 := by
  constructor
  · intro same
    have lower_ := congrArg Text.lower same
    rw [lower_valueType (List.fst_mem_of_mem_zipIdx inFirst),
      lower_valueType (List.fst_mem_of_mem_zipIdx inSecond)] at lower_
    exact (lower_name_eq_iff inFirst inSecond).mp lower_
  · intro same
    rw [eq_of_place_eq inFirst inSecond same]

end

end DeclaredType

end ListOps
