/-
# ListOps.Proofs.LowerCase -- lower case settles

Keys are compared in lower case, and a value type may be read as a name again, so it
counts that a text in lower case stays as it is: `Text.lower_lower`.  What becomes of
a character is in lower case itself (`Chars.lowerAt_cases`), because no run of the
table leads into another one (`Unicode.lowerRuns_miss`).

Nor does any run lead to white space, so the lower case of a trimmed text is trimmed:
`Text.trim_lower_trim`.
-/
import ListOps.Proofs.Capitals

namespace ListOps

set_option autoImplicit false

open Unicode

/-! ## The table -/

namespace Unicode

namespace CaseRun

variable {run other : CaseRun}

theorem covers_iff {code : Nat} : run.covers code = true ↔
    (run.first ≤ code ∧ code ≤ run.last) ∧ (code - run.first) % run.step = 0 := by
  simp only [covers, Bool.and_eq_true, decide_eq_true_eq, beq_iff_eq]

/-- The characters of a span, each left as it is. -/
def ofSpan (span : Nat × Nat) : CaseRun :=
  ⟨span.1, span.2, 1, span.1⟩

theorem covers_ofSpan_iff {span : Nat × Nat} {code : Nat} :
    (ofSpan span).covers code = true ↔ span.1 ≤ code ∧ code ≤ span.2 := by
  simp [covers_iff, ofSpan, Nat.mod_one]

/-- Does `other` leave the images of `run` alone?  They are looked at one by one only
where both overlap. -/
def misses (run other : CaseRun) : Bool :=
  Nat.blt (run.target run.last) other.first || Nat.blt other.last run.image ||
    run.images.all fun code => !other.covers code

theorem not_covers_target (apart : run.misses other = true) {code : Nat}
    (covered : run.covers code = true) : other.covers (run.target code) = false := by
  have member := target_mem_images covered
  rw [← Bool.not_eq_true]
  intro meets
  simp only [misses, Bool.or_eq_true, Nat.blt_eq, List.all_eq_true, Bool.not_eq_true'] at apart
  obtain ⟨within, -⟩ := covers_iff.mp covered
  obtain ⟨within', -⟩ := covers_iff.mp meets
  rcases apart with (below | above) | each
  · simp only [target] at below within'
    omega
  · simp only [target] at within'
    omega
  · simp [each _ member] at meets

end CaseRun

/-- No run leads to a character that has a lower case of its own, or to white space. -/
theorem lowerRuns_miss : (lowerRuns.all fun run =>
    (lowerRuns ++ ((0x130, 0x130) :: whiteSpace).map CaseRun.ofSpan).all run.misses) = true := by
  decide +kernel

section

variable {run : CaseRun} (member : run ∈ lowerRuns) {code : Nat} (covered : run.covers code = true)

include member covered

theorem toNat_target : (Char.ofNat (run.target code)).toNat = run.target code :=
  CaseMap.toNat_ofNat (CaseMap.valid_target lowerCase_above member covered).2

theorem target_cases : (∀ other ∈ lowerRuns, other.covers (run.target code) = false) ∧
    run.target code ≠ 0x130 ∧ isWhiteSpace (Char.ofNat (run.target code)) = false := by
  have apart := List.all_eq_true.mp lowerRuns_miss run member
  simp only [List.all_append, Bool.and_eq_true, List.all_eq_true] at apart
  have spans (span : Nat × Nat) (listed : span ∈ (0x130, 0x130) :: whiteSpace) :
      ¬ (span.1 ≤ run.target code ∧ run.target code ≤ span.2) := by
    rw [← CaseRun.covers_ofSpan_iff, Bool.not_eq_true]
    exact CaseRun.not_covers_target (apart.2 _ (List.mem_map_of_mem listed)) covered
  refine ⟨fun other listed => CaseRun.not_covers_target (apart.1 other listed) covered, ?_, ?_⟩
  · intro same
    exact spans (0x130, 0x130) (by simp) (by simp [same])
  · rw [← Bool.not_eq_true, isWhiteSpace, CodeSet.has_iff, toNat_target member covered]
    rintro ⟨span, listed, within⟩
    exact spans span (List.mem_cons_of_mem _ listed) within

theorem isLower_target : Chars.isLower (Char.ofNat (run.target code)) = true := by
  obtain ⟨uncovered, undotted, -⟩ := target_cases member covered
  rw [← toNat_target member covered] at undotted uncovered
  exact Chars.isLower_of_not_covers undotted uncovered

end

end Unicode

/-! ## Characters -/

namespace Chars

/-- What becomes of a character is in lower case, and no white space unless the
character is. -/
theorem lowerAt_cases {before : Bool} {c d : Char} {rest : List Char}
    (inside : d ∈ lowerAt before c rest) :
    isLower d = true ∧ (d = c ∨ isWhiteSpace d = false) := by
  unfold lowerAt at inside
  split at inside
  · have sigmas : isLower 'σ' = true ∧ isLower 'ς' = true ∧ isWhiteSpace 'σ' = false ∧
        isWhiteSpace 'ς' = false := by decide
    split at inside <;> rcases List.mem_singleton.mp inside with rfl <;> simp [sigmas]
  · rename_i other
    rw [lowerChar] at inside
    rcases lowerCase.image_cases c with
      ⟨entry, listed, -, same⟩ | ⟨-, ⟨run, member, covered, same⟩ | same⟩
    · have settled : ∀ entry ∈ lowerCase.longer, ∀ code ∈ entry.2,
          isLower (Char.ofNat code) = true ∧ isWhiteSpace (Char.ofNat code) = false := by
        decide
      rw [same] at inside
      obtain ⟨code, given, rfl⟩ := List.mem_map.mp inside
      exact (settled entry listed code given).imp_right .inr
    · rw [same] at inside
      rcases List.mem_singleton.mp inside with rfl
      exact ⟨isLower_target member covered, .inr (target_cases member covered).2.2⟩
    · rw [same] at inside
      rcases List.mem_singleton.mp inside with rfl
      exact ⟨by simp [isLower, other, lowerChar, same], .inl rfl⟩

/-! ## Texts -/

theorem isLower_of_mem_lowerFrom {before : Bool} {cs : List Char} {d : Char}
    (inside : d ∈ lowerFrom before cs) : isLower d = true := by
  induction cs generalizing before with
  | nil => simp [lowerFrom] at inside
  | cons c rest ih =>
    rw [lowerFrom, List.mem_append] at inside
    rcases inside with first | later
    · exact (lowerAt_cases first).1
    · exact ih later

theorem lower_lower (cs : List Char) : lower (lower cs) = lower cs :=
  lowerFrom_eq_self (fun _ inside => isLower_of_mem_lowerFrom inside) false

theorem head?_lowerFrom {before : Bool} {cs : List Char} {d : Char}
    (first : (lowerFrom before cs).head? = some d) :
    ∃ c rest, cs.head? = some c ∧ d ∈ lowerAt before c rest := by
  cases cs with
  | nil => simp [lowerFrom] at first
  | cons c rest =>
    cases image : lowerAt before c rest with
    | nil => exact absurd image (lowerAt_ne_nil before c rest)
    | cons e image' =>
      rw [lowerFrom, image, List.cons_append, List.head?_cons, Option.some_inj] at first
      exact ⟨c, rest, rfl, by simp [image, first]⟩

theorem getLast?_lowerFrom {before : Bool} {cs : List Char} {d : Char}
    (last : (lowerFrom before cs).getLast? = some d) :
    ∃ c before', cs.getLast? = some c ∧ d ∈ lowerAt before' c [] := by
  induction cs generalizing before with
  | nil => simp [lowerFrom] at last
  | cons c rest ih =>
    cases rest with
    | nil =>
      rw [lowerFrom, lowerFrom, List.append_nil] at last
      exact ⟨c, before, rfl, List.mem_of_getLast? last⟩
    | cons next rest =>
      have filled : lowerFrom (casedBehind before c) (next :: rest) ≠ [] :=
        mt lowerFrom_eq_nil_iff.mp (by simp)
      rw [lowerFrom, List.getLast?_append, List.getLast?_eq_some_getLast filled,
        Option.some_or, ← List.getLast?_eq_some_getLast filled] at last
      rw [List.getLast?_cons_cons]
      exact ih last

/-- Lower case leaves white space at the ends as it is, and brings in none. -/
theorem trim_lower {cs : List Char} (trimmed : trim cs = cs) : trim (lower cs) = lower cs := by
  have settled {before : Bool} {c d : Char} {rest : List Char} (inside : d ∈ lowerAt before c rest)
      (own : isWhiteSpace c = false) : isWhiteSpace d = false := by
    rcases (lowerAt_cases inside).2 with rfl | other
    · exact own
    · exact other
  refine trim_eq_self (fun d first => ?_) fun d last => ?_
  · obtain ⟨c, rest, first', inside⟩ := head?_lowerFrom first
    exact settled inside (head?_trim (trimmed.symm ▸ first'))
  · obtain ⟨c, before, last', inside⟩ := getLast?_lowerFrom last
    exact settled inside (getLast?_trim (trimmed.symm ▸ last'))

end Chars

namespace Text

@[simp] theorem lower_lower (s : String) : lower (lower s) = lower s := by
  apply String.toList_inj.mp
  rw [toList_lower, toList_lower, Chars.lower_lower]

@[simp] theorem trim_lower_trim (s : String) : trim (lower (trim s)) = lower (trim s) := by
  apply String.toList_inj.mp
  rw [toList_trim, toList_lower, toList_trim, Chars.trim_lower (Chars.trim_trim s.toList)]

end Text

end ListOps
