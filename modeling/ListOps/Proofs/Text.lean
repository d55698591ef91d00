/-
# ListOps.Proofs.Text -- what trimming, splitting and changing case keep

Names are trimmed wherever they are read, so trimming has to settle at once
(`Text.trim_trim`).  Splitting at a separator undoes putting it between entries that do
not hold it (`Chars.splitOn_intercalate`), so a list that was read from one text can be
read from it again (`Text.listed_listed`).  Lower case serves as a key: it loses no text altogether
(`Text.lower_eq_empty_iff`) and leaves alone what is in lower case already
(`Text.lower_eq_self`).  Capitalised words go into the names of functions, and
there it counts that capitals bring in no line feeds, brackets or dots that were
not in the text before: `Name.mem_suffix`, by a bound that the table of capitals
keeps (`CaseMap.mem_image`).
-/
import ListOps.Name.Suffix
import ListOps.Text.Case

namespace ListOps

set_option autoImplicit false

open Unicode

/-! ## Trimming -/

namespace Chars

theorem head?_trimStart {cs : List Char} {c : Char} (first : (trimStart cs).head? = some c) :
    isWhiteSpace c = false := by
  have stopped := List.head?_dropWhile_not isWhiteSpace cs
  rw [trimStart] at first
  rw [first] at stopped
  exact stopped

theorem trimStart_eq_self {cs : List Char}
    (first : ∀ c, cs.head? = some c → isWhiteSpace c = false) : trimStart cs = cs := by
  cases cs with
  | nil => rfl
  | cons c rest => simp [trimStart, first c rfl]

theorem getLast?_trim {cs : List Char} {c : Char} (last : (trim cs).getLast? = some c) :
    isWhiteSpace c = false := by
  rw [trim, List.getLast?_reverse] at last
  exact head?_trimStart last

/-- What is left starts where `trimStart` lets it start. -/
theorem head?_trim {cs : List Char} {c : Char} (first : (trim cs).head? = some c) :
    isWhiteSpace c = false := by
  have kept : trim cs <+: trimStart cs := by
    have kept := List.dropWhile_suffix isWhiteSpace (l := (trimStart cs).reverse)
    rwa [← List.reverse_prefix, List.reverse_reverse] at kept
  obtain ⟨dropped, same⟩ := kept
  have first_ : (trimStart cs).head? = some c := by
    rw [← same, List.head?_append, first]
    rfl
  exact head?_trimStart first_

/-- Without white space at the ends, nothing is taken away. -/
theorem trim_eq_self {cs : List Char} (first : ∀ c, cs.head? = some c → isWhiteSpace c = false)
    (last : ∀ c, cs.getLast? = some c → isWhiteSpace c = false) : trim cs = cs := by
  have behind : trimStart cs.reverse = cs.reverse := by
    refine trimStart_eq_self fun c inFront => last c ?_
    rwa [List.head?_reverse] at inFront
  rw [trim, trimStart_eq_self first, behind, List.reverse_reverse]

theorem trim_trim (cs : List Char) : trim (trim cs) = trim cs :=
  trim_eq_self (fun _ => head?_trim) fun _ => getLast?_trim

/-- Trimming only takes away. -/
theorem trim_subset (cs : List Char) : trim cs ⊆ cs := by
  intro c inside
  rw [trim, List.mem_reverse] at inside
  have front := (List.dropWhile_suffix isWhiteSpace).subset inside
  exact (List.dropWhile_suffix isWhiteSpace).subset (List.mem_reverse.mp front)

end Chars

@[simp] theorem Text.trim_trim (s : String) : trim (trim s) = trim s := by
  apply String.toList_inj.mp
  rw [toList_trim, toList_trim, Chars.trim_trim]

/-! ## Pieces -/

namespace Chars

variable {separator : List Char} {pieces : List (List Char)}

theorem infix_intercalate {piece : List Char} (member : piece ∈ pieces) :
    piece <:+: separator.intercalate pieces := by
  induction pieces with
  | nil => simp at member
  | cons first rest ih =>
    cases rest with
    | nil =>
      rcases List.mem_singleton.mp member with rfl
      exact ⟨[], [], by simp⟩
    | cons next rest =>
      rw [List.intercalate_cons_cons]
      rcases List.mem_cons.mp member with rfl | later
      · exact List.infix_append_of_infix_left (List.prefix_append piece separator).isInfix
      · exact (ih later).trans (List.suffix_append _ _).isInfix

theorem mem_intercalate {c : Char} (inside : c ∈ separator.intercalate pieces) :
    c ∈ separator ∨ ∃ piece ∈ pieces, c ∈ piece := by
  induction pieces with
  | nil => simp at inside
  | cons first rest ih =>
    cases rest with
    | nil =>
      rw [List.intercalate_singleton] at inside
      exact .inr ⟨first, by simp, inside⟩
    | cons next rest =>
      rw [List.intercalate_cons_cons, List.mem_append, List.mem_append] at inside
      rcases inside with (within | between) | later
      · exact .inr ⟨first, by simp, within⟩
      · exact .inl between
      · obtain between | ⟨piece, member, within⟩ := ih later
        · exact .inl between
        · exact .inr ⟨piece, by simp [member], within⟩

end Chars

/-! ## Splitting -/

namespace Chars

variable {separator : Char}

theorem splitFrom_append {front : List Char} (absent : separator ∉ front)
    (piece rest : List Char) :
    splitFrom separator piece (front ++ separator :: rest) =
      (piece.reverse ++ front) :: splitOn separator rest := by
  induction front generalizing piece with
  | nil => simp [splitFrom, splitOn]
  | cons c front ih =>
    have other : c ≠ separator := (List.ne_of_not_mem_cons absent).symm
    have later : separator ∉ front := List.not_mem_of_not_mem_cons absent
    rw [List.cons_append, splitFrom, if_neg other, ih later]
    simp

theorem splitOn_append {front : List Char} (absent : separator ∉ front)
    (rest : List Char) :
    splitOn separator (front ++ separator :: rest) = front :: splitOn separator rest :=
  splitFrom_append absent [] rest

theorem splitFrom_of_not_mem {cs : List Char} (absent : separator ∉ cs) (piece : List Char) :
    splitFrom separator piece cs = [piece.reverse ++ cs] := by
  induction cs generalizing piece with
  | nil => simp [splitFrom]
  | cons c cs ih =>
    have other : c ≠ separator := (List.ne_of_not_mem_cons absent).symm
    have later : separator ∉ cs := List.not_mem_of_not_mem_cons absent
    rw [splitFrom, if_neg other, ih later]
    simp

/-- Pieces that are put together with a separator that none of them holds are the
pieces between separators. -/
theorem splitOn_intercalate {pieces : List (List Char)} (nonempty : pieces ≠ [])
    (absent : ∀ piece ∈ pieces, separator ∉ piece) :
    splitOn separator ([separator].intercalate pieces) = pieces := by
  induction pieces with
  | nil => exact absurd rfl nonempty
  | cons piece rest ih =>
    rw [List.forall_mem_cons] at absent
    cases rest with
    | nil => rw [List.intercalate_singleton, splitOn, splitFrom_of_not_mem absent.1]; rfl
    | cons next rest =>
      rw [List.intercalate_cons_cons, List.append_assoc, List.singleton_append,
        splitOn_append absent.1, ih (by simp) absent.2]

theorem not_mem_of_mem_splitFrom {piece cs part : List Char} (absent : separator ∉ piece)
    (member : part ∈ splitFrom separator piece cs) : separator ∉ part := by
  induction cs generalizing piece with
  | nil =>
    rw [splitFrom, List.mem_singleton] at member
    rwa [member, List.mem_reverse]
  | cons c cs ih =>
    rw [splitFrom] at member
    split at member
    · rcases List.mem_cons.mp member with rfl | later
      · rwa [List.mem_reverse]
      · exact ih List.not_mem_nil later
    · rename_i other
      exact ih (by simp [absent, Ne.symm other]) member

/-- No piece holds the separator. -/
theorem not_mem_of_mem_splitOn {cs part : List Char} (member : part ∈ splitOn separator cs) :
    separator ∉ part :=
  not_mem_of_mem_splitFrom List.not_mem_nil member

end Chars

/-! ## Entries -/

namespace Text

variable {entries : List String}

@[simp] theorem nonBlank_nil : nonBlank [] = [] :=
  rfl

theorem nonBlank_append (front rest : List String) :
    nonBlank (front ++ rest) = nonBlank front ++ nonBlank rest := by
  simp [nonBlank]

theorem nonBlank_cons_of_blank {entry : String} (blank : trim entry = "") :
    nonBlank (entry :: entries) = nonBlank entries := by
  simp [nonBlank, blank]

theorem nonBlank_cons_of_filled {entry : String} (filled : trim entry ≠ "") :
    nonBlank (entry :: entries) = trim entry :: nonBlank entries := by
  simp [nonBlank, filled]

theorem nonBlank_map_trim : nonBlank (entries.map trim) = nonBlank entries := by
  simp [nonBlank, Function.comp_def]

theorem mem_nonBlank {entry : String} :
    entry ∈ nonBlank entries ↔ entry ≠ "" ∧ ∃ written ∈ entries, trim written = entry := by
  rw [nonBlank, List.mem_filter, List.mem_map, and_comm]
  simp

theorem trim_of_mem_nonBlank {entry : String} (member : entry ∈ nonBlank entries) :
    trim entry = entry := by
  obtain ⟨-, written, -, rfl⟩ := mem_nonBlank.mp member
  exact trim_trim written

theorem nonBlank_eq_self (trimmed : ∀ entry ∈ entries, trim entry = entry)
    (filled : ∀ entry ∈ entries, entry ≠ "") : nonBlank entries = entries := by
  rw [nonBlank, List.map_congr_left trimmed, List.map_id']
  exact List.filter_eq_self.mpr fun entry member => by simpa using filled entry member

theorem nonBlank_nonBlank : nonBlank (nonBlank entries) = nonBlank entries :=
  nonBlank_eq_self (fun _ member => trim_of_mem_nonBlank member)
    fun _ member => (mem_nonBlank.mp member).1

/-- Reading a comma-separated list gives back the entries that it was written from,
but for the blank ones. -/
theorem listed_intercalate (noComma : ∀ entry ∈ entries, ',' ∉ entry.toList) :
    listed (",".intercalate entries) = nonBlank entries := by
  have comma : ",".toList = [','] := rfl
  rw [listed, String.toList_intercalate, comma]
  cases entries with
  | nil => rfl
  | cons entry rest =>
    rw [Chars.splitOn_intercalate (by simp) (by simpa using noComma), List.map_map]
    simp [Function.comp_def]

/-- What is listed holds no comma. -/
theorem comma_not_mem_of_mem_listed {s entry : String} (member : entry ∈ listed s) :
    ',' ∉ entry.toList := by
  obtain ⟨-, written, piece, rfl⟩ := mem_nonBlank.mp member
  obtain ⟨part, split, rfl⟩ := List.mem_map.mp piece
  intro inside
  have kept := Chars.trim_subset part (by simpa using inside)
  exact Chars.not_mem_of_mem_splitOn split kept

/-- A listed text is listed again as it is. -/
theorem listed_listed (s : String) : listed (",".intercalate (listed s)) = listed s := by
  rw [listed_intercalate fun entry member => comma_not_mem_of_mem_listed member]
  exact nonBlank_nonBlank

end Text

/-! ## Images of characters -/

namespace Unicode

namespace CaseMap

/-- Do all characters that change become characters from `low` on? -/
def Above (map : CaseMap) (low : Nat) : Bool :=
  (map.runs.all fun run => low ≤ run.image &&
    (run.target run.last < 0xD800 || 0xDFFF < run.image && run.target run.last < 0x110000)) &&
  map.longer.all fun entry => entry.2.all fun code => low ≤ code && code < 0xD800

theorem toNat_ofNat {code : Nat} (valid : code < 0xD800 ∨ 0xDFFF < code ∧ code < 0x110000) :
    (Char.ofNat code).toNat = code := by
  rw [Char.ofNat, dif_pos valid]
  rfl

/-- Where the image of a character comes from. -/
theorem image_cases (map : CaseMap) (c : Char) :
    (∃ entry ∈ map.longer, entry.1 = c.toNat ∧ map.image c = entry.2.map Char.ofNat) ∨
      (∀ entry ∈ map.longer, entry.1 ≠ c.toNat) ∧
        ((∃ run ∈ map.runs, run.covers c.toNat = true ∧
            map.image c = [Char.ofNat (run.target c.toNat)]) ∨ map.image c = [c]) := by
  unfold image
  cases listed : map.longer.find? fun entry => entry.1 == c.toNat with
  | some entry =>
    exact .inl ⟨entry, List.mem_of_find?_eq_some listed, by simpa using List.find?_some listed, rfl⟩
  | none =>
    refine .inr ⟨by simpa using listed, ?_⟩
    cases covered : map.runs.find? fun run => run.covers c.toNat with
    | some run =>
      have covers : run.covers c.toNat = true := by simpa using List.find?_some covered
      exact .inl ⟨run, List.mem_of_find?_eq_some covered, covers, rfl⟩
    | none => exact .inr rfl

/-- A character that is neither listed nor in a run stays as it is. -/
theorem image_eq_self {map : CaseMap} {c : Char} (unlisted : ∀ entry ∈ map.longer, entry.1 ≠ c.toNat)
    (uncovered : ∀ run ∈ map.runs, run.covers c.toNat = false) : map.image c = [c] := by
  rcases map.image_cases c with ⟨entry, listed, same, -⟩ | ⟨-, ⟨run, member, covered, -⟩ | same⟩
  · exact absurd same (unlisted entry listed)
  · simp [uncovered run member] at covered
  · exact same

theorem valid_target {map : CaseMap} {low : Nat} (above : map.Above low = true) {run : CaseRun}
    (member : run ∈ map.runs) {code : Nat} (covered : run.covers code = true) :
    low ≤ run.target code ∧
      (run.target code < 0xD800 ∨ 0xDFFF < run.target code ∧ run.target code < 0x110000) := by
  simp only [Above, Bool.and_eq_true, List.all_eq_true, decide_eq_true_eq, Bool.or_eq_true] at above
  have bounds := above.1 run member
  simp only [CaseRun.covers, Bool.and_eq_true, decide_eq_true_eq] at covered
  simp only [CaseRun.target] at bounds ⊢
  omega

theorem mem_image {map : CaseMap} {low : Nat} (above : map.Above low = true) {c d : Char}
    (inside : d ∈ map.image c) : d = c ∨ low ≤ d.toNat := by
  rcases map.image_cases c with
    ⟨entry, listed, -, same⟩ | ⟨-, ⟨run, member, covered, same⟩ | same⟩
  · simp only [Above, Bool.and_eq_true, List.all_eq_true, decide_eq_true_eq] at above
    rw [same] at inside
    obtain ⟨code, member, rfl⟩ := List.mem_map.mp inside
    have bounds := above.2 entry listed code member
    rw [toNat_ofNat (.inl bounds.2)]
    exact .inr bounds.1
  · obtain ⟨bound, valid⟩ := valid_target above member covered
    rw [same] at inside
    rw [List.mem_singleton.mp inside, toNat_ofNat valid]
    exact .inr bound
  · rw [same] at inside
    exact .inl (List.mem_singleton.mp inside)

theorem image_ne_nil {map : CaseMap} (longer : map.longer.all (!·.2.isEmpty) = true) (c : Char) :
    map.image c ≠ [] := by
  unfold image
  split
  · rename_i entry found
    have nonempty := List.all_eq_true.mp longer entry (List.mem_of_find?_eq_some found)
    simpa using nonempty
  · split <;> simp

end CaseMap

theorem lowerCase_above : lowerCase.Above 'a'.toNat = true := by
  decide

theorem upperCase_above : upperCase.Above 'A'.toNat = true := by
  decide

end Unicode

/-! ## Lower case -/

namespace Chars

theorem lowerAt_ne_nil (before : Bool) (c : Char) (rest : List Char) :
    lowerAt before c rest ≠ [] := by
  unfold lowerAt
  split
  · split <;> simp
  · exact CaseMap.image_ne_nil (by decide) c

theorem lowerFrom_eq_nil_iff {before : Bool} {cs : List Char} :
    lowerFrom before cs = [] ↔ cs = [] := by
  cases cs with
  | nil => simp [lowerFrom]
  | cons c rest => simp [lowerFrom, lowerAt_ne_nil]

theorem mem_lowerFrom {d : Char} {before : Bool} {cs : List Char}
    (inside : d ∈ lowerFrom before cs) : d ∈ cs ∨ 'a'.toNat ≤ d.toNat := by
  induction cs generalizing before with
  | nil => simp [lowerFrom] at inside
  | cons c rest ih =>
    rw [lowerFrom, List.mem_append] at inside
    rcases inside with first | later
    · unfold lowerAt at first
      split at first
      · right
        split at first <;> rw [List.mem_singleton.mp first] <;> decide
      · exact (CaseMap.mem_image lowerCase_above first).imp_left (by simp +contextual)
    · exact (ih later).imp_left (List.mem_cons_of_mem c)

/-- Lower case brings in small letters only. -/
theorem mem_lower {d : Char} {cs : List Char} (inside : d ∈ lower cs) :
    d ∈ cs ∨ 'a'.toNat ≤ d.toNat :=
  mem_lowerFrom inside

/-- Is `c` in lower case, whatever stands around it? -/
def isLower (c : Char) : Bool :=
  c != 'Σ' && lowerChar c == [c]

theorem lowerFrom_eq_self {cs : List Char} (lower_ : ∀ c ∈ cs, isLower c = true) (before : Bool) :
    lowerFrom before cs = cs := by
  induction cs generalizing before with
  | nil => rfl
  | cons c rest ih =>
    have first := lower_ c (by simp)
    simp only [isLower, Bool.and_eq_true, bne_iff_ne, beq_iff_eq] at first
    rw [lowerFrom, lowerAt, if_neg first.1, first.2, ih fun d member => lower_ d (by simp [member])]
    rfl

/-- A character without a lower case of its own is in lower case. -/
theorem isLower_of_not_covers {c : Char} (undotted : c.toNat ≠ 0x130)
    (uncovered : ∀ run ∈ lowerRuns, run.covers c.toNat = false) : isLower c = true := by
  have unchanged : lowerChar c = [c] :=
    CaseMap.image_eq_self (by simpa [lowerCase] using undotted.symm) uncovered
  have noSigma : c ≠ 'Σ' := by
    rintro rfl
    have covered : (lowerRuns.any fun run => run.covers 'Σ'.toNat) = true := by decide
    obtain ⟨run, member, covers⟩ := List.any_eq_true.mp covered
    rw [uncovered run member] at covers
    contradiction
  simp [isLower, noSigma, unchanged]

/-- Outside of the capitals, ASCII is in lower case. -/
theorem isLower_of_ascii {c : Char}
    (ascii : c.toNat < 0x41 ∨ 0x5A < c.toNat ∧ c.toNat < 0xC0) : isLower c = true := by
  have runs : lowerRuns.all (fun run => 0xC0 ≤ run.first ||
      0x41 ≤ run.first && run.last ≤ 0x5A) = true := by decide
  simp only [List.all_eq_true, Bool.or_eq_true, Bool.and_eq_true, decide_eq_true_eq] at runs
  refine isLower_of_not_covers (by omega) fun run member => ?_
  rw [← Bool.not_eq_true]
  intro covers
  simp only [CaseRun.covers, Bool.and_eq_true, decide_eq_true_eq] at covers
  have bounds := runs run member
  omega

end Chars

namespace Text

theorem lower_eq_empty_iff {s : String} : lower s = "" ↔ s = "" := by
  rw [← String.toList_eq_nil_iff, toList_lower, ← String.toList_eq_nil_iff]
  exact Chars.lowerFrom_eq_nil_iff

theorem isEmpty_congr {s s' : String} (same : lower s = lower s') : s.isEmpty = s'.isEmpty := by
  rw [Bool.eq_iff_iff, String.isEmpty_iff, String.isEmpty_iff, ← lower_eq_empty_iff, same,
    lower_eq_empty_iff]

theorem lower_eq_self {s : String} (lower_ : ∀ c ∈ s.toList, Chars.isLower c = true) :
    lower s = s := by
  apply String.toList_inj.mp
  rw [toList_lower]
  exact Chars.lowerFrom_eq_self lower_ false

end Text

/-! ## Names -/

namespace Name

theorem mem_capitalizeFrom {d : Char} {start : Bool} {cs : List Char}
    (inside : d ∈ capitalizeFrom start cs) : d ∈ cs ∨ 'A'.toNat ≤ d.toNat := by
  induction cs generalizing start with
  | nil => simp [capitalizeFrom] at inside
  | cons c rest ih =>
    rw [capitalizeFrom, List.mem_append] at inside
    rcases inside with first | later
    · split at first
      · exact (CaseMap.mem_image upperCase_above first).imp_left (by simp +contextual)
      · exact .inl (by simp [List.mem_singleton.mp first])
    · exact (ih later).imp_left (List.mem_cons_of_mem c)

theorem mem_unqualified {d : Char} {s : String} (inside : d ∈ (unqualified s).toList) :
    d ∈ s.toList := by
  rw [unqualified, Text.toList_afterLast, Chars.afterLast, List.mem_reverse] at inside
  exact List.mem_reverse.mp (List.takeWhile_subset _ inside)

/-- A name's share in the name of a function is made of its own characters and
of capitals. -/
theorem mem_suffix {d : Char} {s : String} (inside : d ∈ (suffix s).toList) :
    d ∈ s.toList ∨ 'A'.toNat ≤ d.toNat := by
  simp only [suffix] at inside
  split at inside
  · have letters : ("Str".toList.all fun c => 'A'.toNat ≤ c.toNat) = true := by decide
    exact .inr (of_decide_eq_true (List.all_eq_true.mp letters d inside))
  · have titled := mem_unqualified inside
    rw [toList_capitalize] at titled
    exact mem_capitalizeFrom titled

end Name

end ListOps
