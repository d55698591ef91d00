/-
# ListOps.Proofs.Distinct -- which entries of a list of names are kept

An entry is kept exactly if no earlier one has its key, so what is kept can be read off
the places of the list (`firstOccurrences_eq_map`).  Keeping by a coarser key what
was kept by a finer one is keeping by the coarser key
(`firstOccurrences_firstOccurrences`): with the same key twice, nothing more is dropped.

Names are trimmed as they are kept, and no key tells a name from the trimmed one.  So both
filters on names are instances of one statement, `Text.KeepsFirst`.
-/
import Mathlib.Data.List.FinRange
import ListOps.Proofs.FirstOccurrences
import ListOps.Proofs.Text

namespace ListOps

set_option autoImplicit false

universe u v w

section

variable {α : Type u} {κ : Type v} (key : α → κ)

/-! ## First places -/

/-- Is `place` the first one whose entry has its key? -/
def IsFirstPlace (entries : List α) (place : Fin entries.length) : Prop :=
  ∀ earlier < place, key (entries.get earlier) ≠ key (entries.get place)

instance [DecidableEq κ] (entries : List α) : DecidablePred (IsFirstPlace key entries) :=
  fun place => inferInstanceAs
    (Decidable (∀ earlier < place, key (entries.get earlier) ≠ key (entries.get place)))

theorem isFirstPlace_zero (a : α) (rest : List α) :
    IsFirstPlace key (a :: rest) (0 : Fin (rest.length + 1)) := by
  intro earlier before
  exact absurd before (Fin.not_lt_zero earlier)

theorem isFirstPlace_succ_iff (a : α) (rest : List α) (place : Fin rest.length) :
    IsFirstPlace key (a :: rest) place.succ ↔
      key a ≠ key (rest.get place) ∧ IsFirstPlace key rest place := by
  simp only [IsFirstPlace, List.length_cons, Fin.forall_fin_succ, List.get_cons_zero,
    Fin.succ_pos, forall_const, Fin.succ_lt_succ_iff]
  rfl

variable [DecidableEq κ]

/-- The places whose entry has a key that no earlier entry has. -/
def firstPlaces (entries : List α) : List (Fin entries.length) :=
  (List.finRange entries.length).filter fun place => IsFirstPlace key entries place

/-- The entries at first places whose key is not in `seen`. -/
def firstUnseen (seen : List κ) (entries : List α) : List α :=
  ((List.finRange entries.length).filter fun place =>
    key (entries.get place) ∉ seen ∧ IsFirstPlace key entries place).map entries.get

/-- Behind `a`, its key counts as seen. -/
theorem firstUnseen_cons (seen : List κ) (a : α) (rest : List α) :
    firstUnseen key seen (a :: rest) =
      if key a ∈ seen then firstUnseen key (key a :: seen) rest
      else a :: firstUnseen key (key a :: seen) rest := by
  have places : List.finRange (a :: rest).length =
      0 :: (List.finRange rest.length).map Fin.succ := List.finRange_succ
  have later : ((List.finRange rest.length).map Fin.succ).filter (fun place =>
        key ((a :: rest).get place) ∉ seen ∧ IsFirstPlace key (a :: rest) place) =
      ((List.finRange rest.length).filter fun place =>
        key (rest.get place) ∉ key a :: seen ∧ IsFirstPlace key rest place).map Fin.succ := by
    rw [List.filter_map]
    refine congrArg (List.map Fin.succ) (List.filter_congr fun place _ => ?_)
    simp only [Function.comp_apply, isFirstPlace_succ_iff, List.mem_cons, not_or, decide_eq_decide]
    constructor
    · rintro ⟨unseen, other, first⟩
      exact ⟨⟨Ne.symm other, unseen⟩, first⟩
    · rintro ⟨⟨other, unseen⟩, first⟩
      exact ⟨unseen, Ne.symm other, first⟩
  rw [firstUnseen, firstUnseen, places, List.filter_cons, later]
  by_cases old : key a ∈ seen
  · rw [if_neg (by simp [old]), if_pos old, List.map_map]
    rfl
  · have first : key ((a :: rest).get 0) ∉ seen ∧ IsFirstPlace key (a :: rest) 0 :=
      ⟨old, isFirstPlace_zero key a rest⟩
    rw [if_pos (decide_eq_true first), if_neg old, List.map_cons, List.map_map]
    rfl

theorem firstOccurrencesFrom_eq (seen : List κ) (entries : List α) :
    firstOccurrencesFrom key seen entries = firstUnseen key seen entries := by
  induction entries generalizing seen with
  | nil => rfl
  | cons a rest ih =>
    rw [firstOccurrencesFrom, firstUnseen_cons]
    by_cases old : key a ∈ seen
    · -- to see a key once more changes nothing
      have agree (b : α) : key b ∈ seen ↔ key b ∈ key a :: seen := by
        rw [List.mem_cons, or_iff_right_of_imp fun same => same ▸ old]
      have same : (firstOccurrencesFrom key seen rest).filter (fun _ => true) =
          firstOccurrencesFrom key (key a :: seen) (rest.filter fun _ => true) :=
        filter_firstOccurrencesFrom (fun _ _ _ => rfl) (fun b _ => agree b) rest
      rw [if_pos (by simpa using old), if_pos old, ← ih]
      simpa using same
    · rw [if_neg (by simpa using old), if_neg old, ih]

/-- **Kept is what stands at a first place**, in order. -/
theorem firstOccurrences_eq_map (entries : List α) :
    firstOccurrences key entries = (firstPlaces key entries).map entries.get := by
  rw [firstOccurrences, firstOccurrencesFrom_eq, firstUnseen, firstPlaces]
  simp only [List.not_mem_nil, not_false_eq_true, true_and]

/-! ## Keys and keys of keys -/

variable {key}

/-- Images are kept as what they are images of, under the key of the image. -/
theorem firstOccurrences_map {β : Type u} {key : β → κ} (f : α → β) (entries : List α) :
    firstOccurrences key (entries.map f) = (firstOccurrences (key ∘ f) entries).map f := by
  have paired : List.Forall₂ (fun a b => f a = b) entries (entries.map f) := by
    rw [List.forall₂_map_right_iff]
    exact List.forall₂_same.mpr fun _ _ => rfl
  have kept : List.Forall₂ (fun a b => f a = b) (firstOccurrencesFrom (key ∘ f) [] entries)
      (firstOccurrencesFrom key [] (entries.map f)) :=
    forall₂_firstOccurrencesFrom (fun _ _ same => congrArg key same) paired []
  rw [← List.forall₂_map_left_iff, List.forall₂_eq_eq_eq] at kept
  exact kept.symm

/-- What a finer key drops, a coarser one would drop too. -/
theorem firstOccurrencesFrom_firstOccurrencesFrom {κ' : Type w} [DecidableEq κ'] {fine : α → κ'}
    (coarser : ∀ a b, fine a = fine b → key a = key b) {seen : List κ} {seen' : List κ'}
    (behind : ∀ a, fine a ∈ seen' → key a ∈ seen) (entries : List α) :
    firstOccurrencesFrom key seen (firstOccurrencesFrom fine seen' entries) =
      firstOccurrencesFrom key seen entries := by
  induction entries generalizing seen seen' with
  | nil => rfl
  | cons a rest ih =>
    rw [firstOccurrencesFrom.eq_2 key seen]
    by_cases old' : fine a ∈ seen'
    · rw [firstOccurrencesFrom, if_pos (by simpa using old'), ih behind,
        if_pos (by simpa using behind a old')]
    · rw [firstOccurrencesFrom, if_neg (by simpa using old'), firstOccurrencesFrom]
      split
      · rename_i old
        refine ih fun b old'' => ?_
        rcases List.mem_cons.mp old'' with same | before
        · rw [coarser b a same]
          simpa using old
        · exact behind b before
      · refine congrArg (a :: ·) (ih fun b old'' => ?_)
        rcases List.mem_cons.mp old'' with same | before
        · simp [coarser b a same]
        · exact List.mem_cons_of_mem _ (behind b before)

theorem firstOccurrences_firstOccurrences {κ' : Type w} [DecidableEq κ'] {fine : α → κ'}
    (coarser : ∀ a b, fine a = fine b → key a = key b) (entries : List α) :
    firstOccurrences key (firstOccurrences fine entries) = firstOccurrences key entries :=
  firstOccurrencesFrom_firstOccurrencesFrom coarser (fun _ seen => absurd seen List.not_mem_nil)
    entries

end

/-! ## Names -/

namespace Text

/-- `filter` keeps the trimmed entries that stand at first places for `key`, in order.
So no two that are kept have one key, every key is kept, and what is kept is kept again
as it is. -/
structure KeepsFirst (key : String → String) (filter : List String → List String) : Prop where
  places : ∀ entries,
    filter entries = (firstPlaces key entries).map fun place => trim (entries.get place)
  keys_nodup : ∀ entries, ((filter entries).map key).Nodup
  keys_kept : ∀ entries, ∀ entry ∈ entries, key entry ∈ (filter entries).map key
  settles : ∀ entries, filter (filter entries) = filter entries

theorem distinct_eq (entries : List String) :
    distinct entries = (firstOccurrences trim entries).map trim :=
  firstOccurrences_map trim entries

theorem distinctIgnoringCase_eq (entries : List String) :
    distinctIgnoringCase entries = (firstOccurrences (lower ∘ trim) entries).map trim :=
  firstOccurrences_map trim entries

section

variable {key : String → String} (trimmed : ∀ s, key (trim s) = key s)

include trimmed

theorem map_key_map_trim (entries : List String) :
    (entries.map trim).map key = entries.map key := by
  rw [List.map_map]
  exact List.map_congr_left fun entry _ => trimmed entry

theorem firstOccurrences_map_trim (entries : List String) :
    firstOccurrences key (entries.map trim) = (firstOccurrences key entries).map trim := by
  have same : key ∘ trim = key := funext trimmed
  rw [firstOccurrences_map, same]

/-- Keys do not tell entries from trimmed ones, so it does not matter when they are
trimmed. -/
theorem keepsFirst_of_eq {filter : List String → List String}
    (same : ∀ entries, filter entries = (firstOccurrences key entries).map trim) :
    KeepsFirst key filter where
  places entries := by
    rw [same, firstOccurrences_eq_map, List.map_map]
    rfl
  keys_nodup entries := by
    rw [same, map_key_map_trim trimmed]
    exact List.pairwise_map.mpr (firstOccurrences_pairwise entries)
  keys_kept entries entry member := by
    obtain ⟨kept, inside, found⟩ :
        ∃ kept ∈ firstOccurrences key entries, key kept = key entry :=
      exists_firstOccurrence member
    rw [same, map_key_map_trim trimmed, ← found]
    exact List.mem_map_of_mem inside
  settles entries := by
    have again : firstOccurrences key (firstOccurrences key entries) =
        firstOccurrences key entries := firstOccurrences_firstOccurrences (fun _ _ => id) entries
    rw [same, same, firstOccurrences_map_trim trimmed, again, List.map_map]
    exact List.map_congr_left fun entry _ => trim_trim entry

end

/-- **First occurrences, exactly.**  Both filters keep the first entry for each key, which
is the trimmed entry, and its lower case if case is ignored.  Nothing is lost by leaving
out exact repetitions first. -/
theorem keepsFirst_distinct :
    KeepsFirst trim distinct ∧ KeepsFirst (lower ∘ trim) distinctIgnoringCase ∧
      ∀ entries, distinctIgnoringCase (distinct entries) = distinctIgnoringCase entries := by
  have lowered (s : String) : (lower ∘ trim) (trim s) = (lower ∘ trim) s :=
    congrArg lower (trim_trim s)
  refine ⟨keepsFirst_of_eq trim_trim distinct_eq,
    keepsFirst_of_eq lowered distinctIgnoringCase_eq, fun entries => ?_⟩
  have absorbed : firstOccurrences (lower ∘ trim) (firstOccurrences trim entries) =
      firstOccurrences (lower ∘ trim) entries :=
    firstOccurrences_firstOccurrences (fun _ _ same => congrArg lower same) entries
  rw [distinctIgnoringCase_eq, distinct_eq, firstOccurrences_map_trim lowered, absorbed,
    distinctIgnoringCase_eq, List.map_map]
  exact List.map_congr_left fun entry _ => trim_trim entry

end Text

end ListOps
