/-
# ListOps.Proofs.Declarations.Carried -- where the carried name comes from

What is carried behind some types is the name of the last one that is not called like
the package (`foldl_carry_eq_lastOther`).  Declared types differ in more than case,
and that is also how a type is compared with the package; so at most one of them is
called like it (`carriedAt_of_named`), and the one before that one is not.  Hence a
carried name never comes from further back than one place (`unqualified_carriedAt`),
and the operations on single types can be told place by place:
`single_carries_previous`.
-/
import ListOps.Proofs.Declarations.Blocks

namespace ListOps

set_option autoImplicit false

/-! ## Types called like the package -/

/-- Entries whose keys are all different have each key once at most. -/
theorem length_filter_le_one {α : Type} {differs : α → α → Prop} {entries : List α}
    (different : entries.Pairwise differs) {keep : α → Bool}
    (alike : ∀ a b, keep a = true → keep b = true → ¬ differs a b) :
    (entries.filter keep).length ≤ 1 := by
  have apart := different.filter keep
  have kept : ∀ entry ∈ entries.filter keep, keep entry = true :=
    fun entry member => (List.mem_filter.mp member).2
  match entries.filter keep, apart, kept with
  | [], _, _ => simp
  | [_], _, _ => simp
  | first :: second :: _, apart, kept =>
    have apart := List.rel_of_pairwise_cons apart List.mem_cons_self
    exact absurd apart (alike first second (kept first (by simp)) (kept second (by simp)))

namespace Declarations

variable (package : String)

theorem namesPackage_iff {name : String} :
    namesPackage package name = true ↔ Text.lower name = Text.lower (Text.trim package) := by
  rw [namesPackage, beq_iff_eq]

/-- At most one declared type is called like the package. -/
theorem length_filter_namesPackage_le_one {recognition : Recognition} {names : List String} :
    ((DeclaredType.ofNames recognition names).filter fun type =>
      namesPackage package type.name).length ≤ 1 := by
  refine length_filter_le_one DeclaredType.ofNames_pairwise fun first second named named' => ?_
  rw [namesPackage_iff] at named named'
  exact not_not_intro (named.trans named'.symm)

/-! ## Place by place -/

variable {types : List DeclaredType}

/-- The name that is carried to the place `k`. -/
def carriedAt (types : List DeclaredType) (k : Fin types.length) : String :=
  (types.take (k.val + 1)).foldl (carry package) ""

theorem withCarried_eq_map (types : List DeclaredType) :
    withCarried package "" types =
      (List.finRange types.length).map fun k => (types.get k, carriedAt package types k) := by
  rw [withCarried_eq]
  apply List.ext_getElem
  · simp
  · intro k bound bound'
    simp [carriedAt]

/-- What one more type does to what is carried. -/
theorem carriedAt_eq (k : Fin types.length) : carriedAt package types k =
    carry package ((types.take k.val).foldl (carry package) "") (types.get k) := by
  rw [carriedAt, ← List.take_append_getElem k.isLt, List.foldl_append, List.foldl_cons,
    List.foldl_nil, List.get_eq_getElem]

theorem carriedAt_of_other {k : Fin types.length}
    (other : namesPackage package (types.get k).name ≠ true) :
    carriedAt package types k = (types.get k).name := by
  rw [carriedAt_eq, carry, if_neg other]

/-- A type called like the package takes over what was carried to the one before it. -/
theorem carriedAt_of_named {k : Fin types.length}
    (named : namesPackage package (types.get k).name = true) :
    carriedAt package types k = (types.take k.val).foldl (carry package) "" := by
  rw [carriedAt_eq, carry, if_pos named]

/-- The suffix of the operations on the type at `k`, by its own name or, if that is
the package's, by the name in front of it. -/
def suffixAt (types : List DeclaredType) (k : Fin types.length) : String :=
  if namesPackage package (types.get k).name then
    if k.val = 0 then "" else Name.unqualified types[k.val - 1].name
  else Name.unqualified (types.get k).name

example : let types := DeclaredType.ofNames .exact ["Pkg", "int", "a.B", "PKG "]
    (List.finRange types.length).map (suffixAt "pkg" types) = ["", "int", "B"] := by
  decide

theorem unqualified_carriedAt
    (different : types.Pairwise fun first second => Text.lower first.name ≠ Text.lower second.name)
    (k : Fin types.length) : Name.unqualified (carriedAt package types k) =
      suffixAt package types k := by
  unfold suffixAt
  split
  · rename_i named
    rw [carriedAt_of_named package named]
    obtain ⟨place, bound⟩ := k
    cases place with
    | zero => rfl
    | succ before =>
      let inFront : Fin types.length := ⟨before, by omega⟩
      have other : namesPackage package (types.get inFront).name ≠ true := by
        intro named'
        rw [namesPackage_iff] at named named'
        exact List.pairwise_iff_getElem.mp different before (before + 1) inFront.isLt bound
          (by omega) (named'.trans named.symm)
      show Name.unqualified (carriedAt package types inFront) =
        Name.unqualified (types.get inFront).name
      rw [carriedAt_of_other package other]
  · rename_i other
    rw [carriedAt_of_other package other]

/-- **The carried name comes from the type itself or from the one before it.**  What
is carried behind any types is the name of the last one that is not called like the
package, or nothing.  Of declared types, at most one is called like the package; so
the operations on single types are the blocks of those that are no scalars, in
order, each under its own name or, if that is the package's, under the name of the
type in front of it, be it a scalar or not. -/
theorem single_carries_previous :
    (∀ types : List DeclaredType,
      types.foldl (carry package) "" = lastOther (Text.trim package) types) ∧
    ∀ (recognition : Recognition) (names : List String),
      let types := DeclaredType.ofNames recognition names
      (types.filter fun type => namesPackage package type.name).length ≤ 1 ∧
      MadeOf (single ⟨package, types⟩)
        (fun k => singleBlock (types.get k).name (suffixAt package types k))
        ((List.finRange types.length).filter fun k => !(types.get k).isScalar) := by
  refine ⟨foldl_carry_eq_lastOther package, fun recognition names => ?_⟩
  refine ⟨length_filter_namesPackage_le_one package, ?_⟩
  have made := madeOf_single ⟨package, DeclaredType.ofNames recognition names⟩
  rw [singleEntries, withCarried_eq_map, List.filter_map, madeOf_map] at made
  refine made.congr fun k _ => ?_
  rw [unqualified_carriedAt package DeclaredType.ofNames_pairwise]

end Declarations

end ListOps
