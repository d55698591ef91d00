/-
# ListOps.Proofs.Traversal -- doing the same for all entries of a list

A list is gone through until an entry fails, and the failure is the result:
`FirstError` says of which entry.  Where no entry fails, the results are those
of the entries.
-/

namespace ListOps

set_option autoImplicit false

section

variable {α β ε : Type}

/-- The first entry that fails, fails with `error`. -/
def FirstError (run : α → Except ε β) (entries : List α) (error : ε) : Prop :=
  ∃ before entry behind, entries = before ++ entry :: behind ∧
    (∀ earlier ∈ before, ∃ result, run earlier = .ok result) ∧ run entry = .error error

theorem firstError_nil {run : α → Except ε β} {error : ε} : ¬ FirstError run [] error := by
  rintro ⟨before, entry, behind, same, -⟩
  simp at same

theorem firstError_cons_of_error {run : α → Except ε β} {entry : α} {rest : List α}
    {error error' : ε} (failed : run entry = .error error) :
    FirstError run (entry :: rest) error' ↔ error' = error := by
  constructor
  · rintro ⟨before, entry', behind, same, fine, failed'⟩
    cases before with
    | nil =>
      cases same
      rw [failed] at failed'
      cases failed'
      rfl
    | cons earlier before =>
      cases same
      obtain ⟨result, done⟩ := fine entry (by simp)
      rw [failed] at done
      cases done
  · rintro rfl
    exact ⟨[], entry, rest, rfl, by simp, failed⟩

theorem firstError_cons_of_ok {run : α → Except ε β} {entry : α} {rest : List α} {result : β}
    {error : ε} (done : run entry = .ok result) :
    FirstError run (entry :: rest) error ↔ FirstError run rest error := by
  constructor
  · rintro ⟨before, entry', behind, same, fine, failed⟩
    cases before with
    | nil =>
      cases same
      rw [done] at failed
      cases failed
    | cons earlier before =>
      cases same
      exact ⟨before, entry', behind, rfl, fun e member => fine e (by simp [member]), failed⟩
  · rintro ⟨before, entry', behind, rfl, fine, failed⟩
    refine ⟨entry :: before, entry', behind, rfl, fun e member => ?_, failed⟩
    rcases List.mem_cons.mp member with rfl | later
    · exact ⟨result, done⟩
    · exact fine e later

/-- Something fails first exactly if something fails. -/
theorem exists_firstError_iff {run : α → Except ε β} {entries : List α} :
    (∃ error, FirstError run entries error) ↔
      ∃ entry ∈ entries, ∃ error, run entry = .error error := by
  induction entries with
  | nil => simp [firstError_nil]
  | cons entry rest ih =>
    cases done : run entry with
    | error error' => simp [firstError_cons_of_error done, done]
    | ok result => simp [firstError_cons_of_ok done, done, ih]

theorem mapM_eq_error_iff {run : α → Except ε β} {entries : List α} {error : ε} :
    entries.mapM run = .error error ↔ FirstError run entries error := by
  induction entries with
  | nil => exact iff_of_false (by simp [pure, Except.pure]) firstError_nil
  | cons entry rest ih =>
    rw [List.mapM_cons]
    cases done : run entry with
    | error error' => simp [bind, Except.bind, firstError_cons_of_error done, eq_comm]
    | ok result =>
      rw [firstError_cons_of_ok done, ← ih]
      cases rest.mapM run <;> simp [bind, Except.bind, pure, Except.pure]

theorem forM_eq_error_iff {run : α → Except ε PUnit} {entries : List α} {error : ε} :
    entries.forM run = .error error ↔ FirstError run entries error := by
  induction entries with
  | nil => exact iff_of_false (by simp [pure, Except.pure]) firstError_nil
  | cons entry rest ih =>
    rw [List.forM_eq_forM, List.forM_cons]
    cases done : run entry with
    | error error' => simp [bind, Except.bind, firstError_cons_of_error done, eq_comm]
    | ok result =>
      rw [firstError_cons_of_ok done, ← ih]
      simp [bind, Except.bind]

/-- Only the entries' own results count. -/
theorem mapM_congr {run run' : α → Except ε β} {entries : List α}
    (same : ∀ entry ∈ entries, run entry = run' entry) : entries.mapM run = entries.mapM run' := by
  induction entries with
  | nil => rfl
  | cons entry rest ih =>
    rw [List.forall_mem_cons] at same
    rw [List.mapM_cons, List.mapM_cons, same.1, ih same.2]

/-- Where every entry succeeds, so does the list. -/
theorem mapM_eq_ok {run : α → Except ε β} {result : α → β} {entries : List α}
    (done : ∀ entry ∈ entries, run entry = .ok (result entry)) :
    entries.mapM run = .ok (entries.map result) := by
  induction entries with
  | nil => rfl
  | cons entry rest ih =>
    rw [List.mapM_cons, done entry (by simp), ih fun e member => done e (by simp [member])]
    rfl

end

end ListOps
