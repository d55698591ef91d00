/-
# ListOps.Proofs.Recognition -- what counts as a scalar

Both ways of recognition look at the trimmed name in lower case, so they do not tell
a name from that (`Recognition.accepts_lower_trim`), and a type is found again by its
type of values (`DeclaredType.ofName_valueType`).  The substring way is the laxer one
(`Recognition.accepts_substring`): whatever the exact way accepts is a spelling, and
all spellings stand in the listing.
-/
import ListOps.Proofs.DeclaredType
import ListOps.Proofs.LowerCase

namespace ListOps

set_option autoImplicit false

/-! ## Names -/

/-- Looking up what was looked up, trimmed and in lower case, gives the same scalar. -/
theorem Scalar.ofSpelling?_lower_trim (name : String) :
    ofSpelling? (Text.lower (Text.trim name)) = ofSpelling? name := by
  rw [ofSpelling?, ofSpelling?, Text.trim_lower_trim, Text.lower_lower]

namespace Recognition

@[simp] theorem accepts_lower_trim (recognition : Recognition) (name : String) :
    recognition.accepts (Text.lower (Text.trim name)) = recognition.accepts name := by
  cases recognition with
  | exact => rw [accepts, accepts, Scalar.ofSpelling?_lower_trim]
  | substring => rw [accepts, accepts, Text.trim_lower_trim, Text.lower_lower]

@[simp] theorem accepts_trim (recognition : Recognition) (name : String) :
    recognition.accepts (Text.trim name) = recognition.accepts name := by
  rw [← accepts_lower_trim, Text.trim_trim, accepts_lower_trim]

theorem accepts_substring {name : String} (accepted : exact.accepts name = true) :
    substring.accepts name = true := by
  rw [accepts, Text.hasPart, Chars.hasPart_iff]
  exact lower_infix_listing accepted

theorem exists_spelling_eq {name : String} (accepted : exact.accepts name = true) :
    ∃ scalar : Scalar, Text.lower (Text.trim name) = scalar.spelling := by
  rw [accepts, Scalar.ofSpelling?, List.find?_isSome] at accepted
  obtain ⟨scalar, -, spelled⟩ := accepted
  exact ⟨scalar, (of_decide_eq_true spelled).symm⟩

end Recognition

/-! ## Types -/

namespace DeclaredType

variable (recognition : Recognition) (name : String)

theorem isScalar_ofName : (ofName recognition name).isScalar = recognition.accepts name := by
  rw [ofName, Recognition.accepts_trim]

/-- The type under the name of its values, which is how operations on two types see
it. -/
def canonical (type : DeclaredType) : DeclaredType where
  name := type.valueType
  isScalar := type.isScalar

@[simp] theorem valueType_canonical (type : DeclaredType) :
    type.canonical.valueType = type.valueType := by
  by_cases scalar : type.isScalar = true
  · simp [canonical, valueType, scalar]
  · simp [canonical, valueType, scalar]

@[simp] theorem suffix_canonical (type : DeclaredType) :
    type.canonical.suffix = type.suffix := by
  rw [suffix, suffix, valueType_canonical]

@[simp] theorem canonical_canonical (type : DeclaredType) :
    type.canonical.canonical = type.canonical := by
  rw [canonical, valueType_canonical]
  rfl

theorem valueType_ofName {recognition : Recognition} {name : String}
    (accepted : recognition.accepts name = true) :
    (ofName recognition name).valueType = Text.lower (Text.trim name) := by
  rw [← isScalar_ofName] at accepted
  rw [valueType, if_pos accepted]
  rfl

/-- Reading the name of a type's values gives the type again. -/
theorem ofName_valueType :
    ofName recognition (ofName recognition name).valueType =
      (ofName recognition name).canonical := by
  by_cases scalar : (ofName recognition name).isScalar = true
  · rw [canonical, valueType_ofName (isScalar_ofName recognition name ▸ scalar)]
    simp [ofName]
  · have spelled : (ofName recognition name).valueType = Text.trim name := by
      rw [valueType, if_neg scalar]
      rfl
    rw [canonical, spelled]
    simp [ofName]

end DeclaredType

end ListOps
