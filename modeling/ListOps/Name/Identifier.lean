/-
# ListOps.Name.Identifier -- identifiers

A letter or an underscore, then letters, numbers and underscores, all of them
over the whole of Unicode.
-/
import ListOps.Unicode.Number

namespace ListOps.Name

set_option autoImplicit false

open Unicode

/-- May `c` stand inside a word? -/
def isWordChar (c : Char) : Bool :=
  isAlphanumeric c || c == '_'

/-- May `c` open an identifier? -/
def isInitial (c : Char) : Bool :=
  isAlphabetic c || c == '_'

/-- Is `s` an identifier?  The empty text is none. -/
def isIdentifier (s : String) : Bool :=
  match s.toList with
  | [] => false
  | c :: rest => isInitial c && rest.all isWordChar

theorem isIdentifier_iff (s : String) :
    isIdentifier s = true ↔
      ∃ c rest, s.toList = c :: rest ∧ isInitial c = true ∧ ∀ d ∈ rest, isWordChar d = true := by
  unfold isIdentifier
  cases s.toList with
  | nil => simp
  | cons c rest =>
    simp only [Bool.and_eq_true, List.all_eq_true]
    exact ⟨fun h => ⟨c, rest, rfl, h⟩, fun ⟨_, _, same, h⟩ => by cases same; exact h⟩

/-- Whatever may open an identifier may also stand inside one. -/
theorem isWordChar_of_isInitial {c : Char} (h : isInitial c = true) : isWordChar c = true := by
  simp only [isInitial, isWordChar, isAlphanumeric, Bool.or_eq_true] at h ⊢
  exact h.imp_left .inl

end ListOps.Name
