/-
# ListOps.Proofs.Capitals -- capitals of word characters

The upper case of a letter need not be a letter.  For some it is a capital with
combining accents behind it, and accents are no word characters.
`Unicode.markedCapitals` lists these letters; every other word character has an
upper case made of word characters (`Name.isWordChar_upperChar_iff`).

The tables decide this.  Whoever changes them has to look at three facts only:
which entries with longer images hold accents (`upperLonger_marked`), that the
list names no others (`markedCapitals_listed`), and that all runs go to letters
(`upperRuns_alphabetic`).
-/
import ListOps.Name.Suffix
import ListOps.Proofs.Text

namespace ListOps

set_option autoImplicit false

open Unicode

/-! ## Upper case of word characters -/

namespace Unicode

namespace CaseRun

variable {run : CaseRun} {set : CodeSet}

/-- The images of all characters of the run. -/
def images (run : CaseRun) : List Nat :=
  (List.range ((run.last - run.first) / run.step + 1)).map fun n => run.image + n * run.step

theorem target_mem_images {code : Nat} (covered : run.covers code = true) :
    run.target code ∈ run.images := by
  simp only [covers, Bool.and_eq_true, decide_eq_true_eq, beq_iff_eq] at covered
  obtain ⟨⟨first, last⟩, even⟩ := covered
  have place : (code - run.first) / run.step * run.step = code - run.first :=
    Nat.div_mul_cancel (Nat.dvd_of_mod_eq_zero even)
  have inside : (code - run.first) / run.step ≤ (run.last - run.first) / run.step :=
    Nat.div_le_div_right (by omega)
  exact List.mem_map.mpr ⟨_, List.mem_range.mpr (Nat.lt_succ_of_le inside), by rw [place, target]⟩

/-- Are all images in `set`?  If one span has them all, they are not asked for
one by one. -/
def imagesIn (run : CaseRun) (set : CodeSet) : Bool :=
  (set.any fun span => run.target run.last ≤ span.2 && span.1 ≤ run.image) ||
    run.images.all fun code => set.any fun span => span.1 ≤ code && code ≤ span.2

theorem exists_span (all : run.imagesIn set = true) {code : Nat}
    (covered : run.covers code = true) :
    ∃ span ∈ set, span.1 ≤ run.target code ∧ run.target code ≤ span.2 := by
  have member := target_mem_images covered
  simp only [covers, Bool.and_eq_true, decide_eq_true_eq] at covered
  simp only [imagesIn, Bool.or_eq_true, List.any_eq_true, List.all_eq_true, Bool.and_eq_true,
    decide_eq_true_eq] at all
  rcases all with ⟨span, inside, last, first⟩ | each
  · refine ⟨span, inside, ?_⟩
    simp only [target] at last ⊢
    omega
  · exact each _ member

end CaseRun

/-- The letters whose upper case has accents of its own, which are no letters. -/
def markedCapitals : List Nat :=
  [0x1F0, 0x390, 0x3B0, 0x1E96, 0x1E97, 0x1E98, 0x1E99, 0x1F50, 0x1F52, 0x1F54, 0x1F56, 0x1FB6,
   0x1FB7, 0x1FC6, 0x1FC7, 0x1FD2, 0x1FD3, 0x1FD6, 0x1FD7, 0x1FE2, 0x1FE3, 0x1FE4, 0x1FE6,
   0x1FE7, 0x1FF6, 0x1FF7]

theorem upperLonger_marked : (upperLonger.all fun entry =>
    (entry.2.all fun code => Name.isWordChar (Char.ofNat code)) !=
      markedCapitals.contains entry.1) = true := by
  decide +kernel

theorem markedCapitals_listed : (markedCapitals.all fun code =>
    upperLonger.any fun entry => entry.1 == code) = true := by
  decide

theorem upperRuns_alphabetic : (upperRuns.all fun run => run.imagesIn alphabetic) = true := by
  decide +kernel

theorem isAlphabetic_target {run : CaseRun} (member : run ∈ upperRuns) {code : Nat}
    (covered : run.covers code = true) : isAlphabetic (Char.ofNat (run.target code)) = true := by
  have valid := (CaseMap.valid_target upperCase_above member covered).2
  rw [isAlphabetic, CodeSet.has_iff, CaseMap.toNat_ofNat valid]
  exact CaseRun.exists_span (List.all_eq_true.mp upperRuns_alphabetic run member) covered

end Unicode

namespace Name

theorem isWordChar_of_isAlphabetic {c : Char} (letter : isAlphabetic c = true) :
    isWordChar c = true := by
  simp [isWordChar, isAlphanumeric, letter]

/-- Only the upper case of a marked capital leaves the words. -/
theorem isWordChar_upperChar_iff {c : Char} (word : isWordChar c = true) :
    (∀ d ∈ upperChar c, isWordChar d = true) ↔ c.toNat ∉ markedCapitals := by
  rw [upperChar]
  rcases upperCase.image_cases c with ⟨entry, listed, key, same⟩ | ⟨unlisted, other⟩
  · have marked := List.all_eq_true.mp upperLonger_marked entry listed
    rw [same, ← key, List.forall_mem_map, ← List.all_eq_true,
      Bool.eq_not.mpr (bne_iff_ne.mp marked), Bool.not_eq_true', ← Bool.not_eq_true,
      List.contains_iff_mem]
  -- without an entry of its own, `c` goes to a letter or stays as it is
  · have unmarked : c.toNat ∉ markedCapitals := by
      intro marked
      have listed := List.all_eq_true.mp markedCapitals_listed _ marked
      obtain ⟨entry, member, key⟩ := List.any_eq_true.mp listed
      exact unlisted entry member (beq_iff_eq.mp key)
    refine iff_of_true ?_ unmarked
    rcases other with ⟨run, member, covered, same⟩ | same
    · rw [same, List.forall_mem_singleton]
      exact isWordChar_of_isAlphabetic (isAlphabetic_target member covered)
    · rwa [same, List.forall_mem_singleton]

end Name

end ListOps
