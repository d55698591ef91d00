/-
# ListOps.Proofs.Request.Redundancy -- names that add nothing to a request

A blank name declares nothing, and neither does a name that was there before but
for case and white space (`DeclaredType.AddsNothing`).  The first spelling is the
one that counts, so such a name may stand anywhere behind it: putting it in changes
no declared type (`DeclaredType.ofNames_insert`), and putting in many changes
nothing either (`DeclaredType.ofNames_padded`).  Any other name behind a list
declares one more type (`DeclaredType.ofNames_concat`).
-/
import ListOps.Proofs.Request.Fields

namespace ListOps

set_option autoImplicit false

namespace DeclaredType

variable {recognition : Recognition} {names before after : List String} {name : String}

/-- The name is blank, or one of the names before it up to case and white space. -/
def AddsNothing (before : List String) (name : String) : Prop :=
  Text.trim name = "" ∨
    ∃ earlier ∈ before, Text.lower (Text.trim name) = Text.lower (Text.trim earlier)

instance (before : List String) (name : String) : Decidable (AddsNothing before name) :=
  inferInstanceAs (Decidable (_ ∨ _))

/-- The names of a list, and in between any number that add nothing. -/
inductive Padded (names : List String) : List String → Prop
  | none : Padded names names
  | insert {before after : List String} {name : String} :
      Padded names (before ++ after) → AddsNothing before name →
      Padded names (before ++ name :: after)

/-- A key is among those of the names that count exactly if the name adds nothing. -/
theorem lower_mem_iff_addsNothing (filled : Text.trim name ≠ "") :
    Text.lower (Text.trim name) ∈ (Text.nonBlank before).map Text.lower ↔
      AddsNothing before name := by
  rw [AddsNothing, or_iff_right filled, List.mem_map]
  constructor
  · rintro ⟨spelling, kept, same⟩
    obtain ⟨-, earlier, member, rfl⟩ := Text.mem_nonBlank.mp kept
    exact ⟨earlier, member, same.symm⟩
  · rintro ⟨earlier, member, same⟩
    refine ⟨Text.trim earlier, Text.mem_nonBlank.mpr ⟨fun blank => filled ?_, earlier, member, rfl⟩,
      same.symm⟩
    rwa [blank, Text.lower_eq_empty_iff.mpr rfl, Text.lower_eq_empty_iff] at same

/-- A name that adds nothing can be put in. -/
theorem ofNames_insert (redundant : AddsNothing before name) :
    ofNames recognition (before ++ name :: after) = ofNames recognition (before ++ after) := by
  rw [ofNames_eq, ofNames_eq, Text.nonBlank_append, Text.nonBlank_append]
  by_cases blank : Text.trim name = ""
  · rw [Text.nonBlank_cons_of_blank blank]
  · rw [Text.nonBlank_cons_of_filled blank,
      firstOccurrences_insert ((lower_mem_iff_addsNothing blank).mpr redundant)]

theorem ofNames_padded {names' : List String} (padded : Padded names names') :
    ofNames recognition names' = ofNames recognition names := by
  induction padded with
  | none => rfl
  | insert _ redundant ih => exact (ofNames_insert redundant).trans ih

/-- Any other name is a further type. -/
theorem ofNames_concat (new : ¬ AddsNothing names name) :
    ofNames recognition (names ++ [name]) =
      ofNames recognition names ++ [ofName recognition name] := by
  have filled : Text.trim name ≠ "" := fun blank => new (.inl blank)
  rw [ofNames_eq, ofNames_eq, Text.nonBlank_append, Text.nonBlank_cons_of_filled filled,
    Text.nonBlank_nil, firstOccurrences_concat (mt (lower_mem_iff_addsNothing filled).mp new),
    List.map_append, List.map_singleton, ofName_trim]

end DeclaredType

open DeclaredType

namespace Request

/-- **Redundant names are invisible.**  Names that are blank, or that repeat an
earlier one up to case and white space, can be put in anywhere and in any number:
the declared types, the verdict and the file or error stay the same.  Behind all
others, no other name leaves the declared types alone. -/
theorem sameOutcome_padded (request : Request) :
    (∀ types, Padded request.types types → SameOutcome { request with types } request) ∧
    ∀ name, declaredTypes { request with types := request.types ++ [name] } =
      request.declaredTypes ↔ AddsNothing request.types name := by
  refine ⟨fun types padded => .of_fields rfl (ofNames_padded padded) rfl, fun name => ?_⟩
  constructor
  · intro same
    refine Decidable.byContradiction fun new => ?_
    have longer := congrArg List.length same
    rw [declaredTypes, declaredTypes, ofNames_concat new, List.length_append,
      List.length_singleton] at longer
    exact absurd longer (Nat.succ_ne_self _)
  · intro redundant
    have inserted : ofNames request.recognition (request.types ++ [name]) =
        ofNames request.recognition (request.types ++ []) := ofNames_insert redundant
    rwa [List.append_nil] at inserted

/-- A blank name and a small spelling of an earlier one in front of another type,
and a large spelling of that one behind it. -/
theorem sameOutcome_padded_spellings :
    let request : Request := ⟨"hr", ["ΟΔΟΣ", "a.T"], ["x"], .substring⟩
    let types := ["ΟΔΟΣ", " ", "οδος\u00a0", "a.T", "\tA.t"]
    Padded request.types types ∧ SameOutcome { request with types } request := by
  intro request types
  have blank : AddsNothing ["ΟΔΟΣ"] " " := by decide +kernel
  have small : AddsNothing ["ΟΔΟΣ", " "] "οδος\u00a0" := by decide +kernel
  have large : AddsNothing ["ΟΔΟΣ", " ", "οδος\u00a0", "a.T"] "\tA.t" := by decide +kernel
  have first : Padded request.types ["ΟΔΟΣ", " ", "a.T"] :=
    @Padded.insert _ ["ΟΔΟΣ"] ["a.T"] _ .none blank
  have second : Padded request.types ["ΟΔΟΣ", " ", "οδος\u00a0", "a.T"] :=
    @Padded.insert _ ["ΟΔΟΣ", " "] ["a.T"] _ first small
  have padded : Padded request.types types :=
    @Padded.insert _ ["ΟΔΟΣ", " ", "οδος\u00a0", "a.T"] [] _ second large
  exact ⟨padded, (sameOutcome_padded request).1 types padded⟩

end Request

end ListOps
