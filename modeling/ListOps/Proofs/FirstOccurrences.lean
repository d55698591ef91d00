/-
# ListOps.Proofs.FirstOccurrences -- one entry for each key

The first occurrences are entries in their order, no two with one key, and every
key keeps an entry.  An entry whose key came before adds nothing, wherever it is
put in (`firstOccurrences_insert`); an entry with a new key is kept, and behind all
others it is the last one (`firstOccurrences_concat`).  Nothing but the keys decides
what is kept (`forall₂_firstOccurrencesFrom`).
-/
import ListOps.FirstOccurrences
import Mathlib.Data.List.Forall2

namespace ListOps

set_option autoImplicit false

universe u v

section

variable {α : Type u} {κ : Type v} [BEq κ] {key : α → κ}

theorem firstOccurrencesFrom_sublist (seen : List κ) (entries : List α) :
    (firstOccurrencesFrom key seen entries).Sublist entries := by
  induction entries generalizing seen with
  | nil => exact .slnil
  | cons a rest ih =>
    unfold firstOccurrencesFrom
    split
    · exact (ih seen).cons a
    · exact (ih (key a :: seen)).cons_cons a

theorem firstOccurrences_subset (entries : List α) : firstOccurrences key entries ⊆ entries :=
  (firstOccurrencesFrom_sublist [] entries).subset

/-- Later entries never drop an earlier one. -/
theorem firstOccurrencesFrom_isPrefix (seen : List κ) (entries further : List α) :
    firstOccurrencesFrom key seen entries <+:
      firstOccurrencesFrom key seen (entries ++ further) := by
  induction entries generalizing seen with
  | nil => exact List.nil_prefix
  | cons a rest ih =>
    rw [List.cons_append, firstOccurrencesFrom, firstOccurrencesFrom]
    split
    · exact ih seen
    · exact (List.prefix_cons_inj a).mpr (ih (key a :: seen))

/-- Keys alone decide what is kept: entries that correspond, with the same keys, have
first occurrences that correspond. -/
theorem forall₂_firstOccurrencesFrom {β : Type u} {key' : β → κ} {related : α → β → Prop}
    (alike : ∀ a b, related a b → key a = key' b) {entries : List α} {entries' : List β}
    (corresponding : List.Forall₂ related entries entries') (seen : List κ) :
    List.Forall₂ related (firstOccurrencesFrom key seen entries)
      (firstOccurrencesFrom key' seen entries') := by
  induction corresponding generalizing seen with
  | nil => exact .nil
  | cons same _ ih =>
    rw [firstOccurrencesFrom, firstOccurrencesFrom, alike _ _ same]
    split
    · exact ih seen
    · exact .cons same (ih _)

variable [LawfulBEq κ]

theorem key_not_mem_seen {seen : List κ} {entries : List α} {a : α}
    (kept : a ∈ firstOccurrencesFrom key seen entries) : key a ∉ seen := by
  induction entries generalizing seen with
  | nil => simp [firstOccurrencesFrom] at kept
  | cons b rest ih =>
    unfold firstOccurrencesFrom at kept
    split at kept
    · exact ih kept
    · rename_i fresh
      rcases List.mem_cons.mp kept with rfl | later
      · simpa using fresh
      · exact fun before => ih later (List.mem_cons_of_mem _ before)

theorem firstOccurrencesFrom_pairwise (seen : List κ) (entries : List α) :
    (firstOccurrencesFrom key seen entries).Pairwise fun a b => key a ≠ key b := by
  induction entries generalizing seen with
  | nil => exact .nil
  | cons a rest ih =>
    unfold firstOccurrencesFrom
    split
    · exact ih seen
    · refine .cons (fun b later same => ?_) (ih (key a :: seen))
      exact key_not_mem_seen later (by simp [same])

theorem exists_firstOccurrenceFrom {seen : List κ} {entries : List α} {a : α}
    (member : a ∈ entries) (fresh : key a ∉ seen) :
    ∃ b ∈ firstOccurrencesFrom key seen entries, key b = key a := by
  induction entries generalizing seen with
  | nil => simp at member
  | cons c rest ih =>
    unfold firstOccurrencesFrom
    split
    · rename_i old
      rcases List.mem_cons.mp member with rfl | later
      · exact absurd (by simpa using old) fresh
      · exact ih later fresh
    · by_cases same : key c = key a
      · exact ⟨c, by simp, same⟩
      · rcases List.mem_cons.mp member with rfl | later
        · exact absurd rfl same
        · have unseen : key a ∉ key c :: seen := by simp [fresh, Ne.symm same]
          obtain ⟨b, kept, found⟩ := ih later unseen
          exact ⟨b, List.mem_cons_of_mem c kept, found⟩

/-- An entry whose key came before is passed over. -/
theorem firstOccurrencesFrom_insert {seen : List κ} {before after : List α} {a : α}
    (repeated : key a ∈ seen ∨ key a ∈ before.map key) :
    firstOccurrencesFrom key seen (before ++ a :: after) =
      firstOccurrencesFrom key seen (before ++ after) := by
  induction before generalizing seen with
  | nil =>
    have old : seen.contains (key a) = true := by simpa using repeated
    rw [List.nil_append, firstOccurrencesFrom, if_pos old, List.nil_append]
  | cons b before ih =>
    rw [List.map_cons, List.mem_cons] at repeated
    rw [List.cons_append, List.cons_append, firstOccurrencesFrom, firstOccurrencesFrom]
    split
    · rename_i old
      refine ih ?_
      rcases repeated with inSeen | same | later
      · exact .inl inSeen
      · exact .inl (by simpa [same] using old)
      · exact .inr later
    · refine congrArg (b :: ·) (ih ?_)
      rcases repeated with inSeen | same | later
      · exact .inl (List.mem_cons_of_mem _ inSeen)
      · exact .inl (by simp [same])
      · exact .inr later

theorem firstOccurrencesFrom_concat {seen : List κ} {entries : List α} {a : α}
    (unseen : key a ∉ seen) (fresh : key a ∉ entries.map key) :
    firstOccurrencesFrom key seen (entries ++ [a]) =
      firstOccurrencesFrom key seen entries ++ [a] := by
  induction entries generalizing seen with
  | nil => simp [firstOccurrencesFrom, unseen]
  | cons b rest ih =>
    rw [List.map_cons, List.mem_cons, not_or] at fresh
    rw [List.cons_append, firstOccurrencesFrom, firstOccurrencesFrom]
    split
    · exact ih unseen fresh.2
    · rw [ih (by simp [unseen, fresh.1]) fresh.2, List.cons_append]

/-- Where keys tell what is kept, it does not matter whether the rest is left out
before or afterwards. -/
theorem filter_firstOccurrencesFrom {keep : α → Bool}
    (alike : ∀ a b, key a = key b → keep a = keep b) {seen seen' : List κ}
    (agree : ∀ a, keep a = true → (key a ∈ seen ↔ key a ∈ seen')) (entries : List α) :
    (firstOccurrencesFrom key seen entries).filter keep =
      firstOccurrencesFrom key seen' (entries.filter keep) := by
  -- the keys that were seen may differ in those that are left out
  induction entries generalizing seen seen' with
  | nil => rfl
  | cons a rest ih =>
    by_cases kept : keep a = true
    · rw [List.filter_cons_of_pos kept, firstOccurrencesFrom, firstOccurrencesFrom]
      by_cases old : key a ∈ seen
      · have old' := (agree a kept).mp old
        rw [if_pos (by simpa using old), if_pos (by simpa using old'), ih agree]
      · have old' := mt (agree a kept).mpr old
        rw [if_neg (by simpa using old), if_neg (by simpa using old'),
          List.filter_cons_of_pos kept]
        refine congrArg (a :: ·) (ih fun b kept' => ?_)
        rw [List.mem_cons, List.mem_cons, agree b kept']
    · rw [List.filter_cons_of_neg kept, firstOccurrencesFrom]
      by_cases old : key a ∈ seen
      · rw [if_pos (by simpa using old), ih agree]
      · rw [if_neg (by simpa using old), List.filter_cons_of_neg kept]
        refine ih fun b kept' => ?_
        have other : key b ≠ key a := fun same => kept ((alike b a same).symm.trans kept')
        rw [List.mem_cons, or_iff_right other, agree b kept']

theorem firstOccurrences_insert {before after : List α} {a : α}
    (repeated : key a ∈ before.map key) :
    firstOccurrences key (before ++ a :: after) = firstOccurrences key (before ++ after) :=
  firstOccurrencesFrom_insert (.inr repeated)

theorem firstOccurrences_concat {entries : List α} {a : α} (fresh : key a ∉ entries.map key) :
    firstOccurrences key (entries ++ [a]) = firstOccurrences key entries ++ [a] :=
  firstOccurrencesFrom_concat List.not_mem_nil fresh

theorem filter_firstOccurrences {keep : α → Bool}
    (alike : ∀ a b, key a = key b → keep a = keep b) (entries : List α) :
    (firstOccurrences key entries).filter keep = firstOccurrences key (entries.filter keep) :=
  filter_firstOccurrencesFrom alike (fun _ _ => Iff.rfl) entries

theorem firstOccurrences_pairwise (entries : List α) :
    (firstOccurrences key entries).Pairwise fun a b => key a ≠ key b :=
  firstOccurrencesFrom_pairwise [] entries

theorem exists_firstOccurrence {entries : List α} {a : α} (member : a ∈ entries) :
    ∃ b ∈ firstOccurrences key entries, key b = key a :=
  exists_firstOccurrenceFrom member (by simp)

end

namespace Text

variable {entries : List String}

theorem mem_distinct {entry : String} : entry ∈ distinct entries ↔ entry ∈ entries.map trim := by
  constructor
  · exact fun kept => firstOccurrences_subset _ kept
  · intro member
    obtain ⟨kept, inside, rfl⟩ :=
      (exists_firstOccurrence member : ∃ kept ∈ distinct entries, kept = entry)
    exact inside

theorem distinct_nodup : (distinct entries).Nodup :=
  firstOccurrences_pairwise _

end Text

end ListOps
