/-
# ListOps.Proofs.Storage.Path -- which directory a path mentions

An empty part of a path and a single dot lead nowhere (`Path.Idle`).  The last part that
counts is the last one that leads somewhere, or else the first part of all
(`Path.EndsIn`).  The directory around a file is the path in front of its last part that
counts, itself up to the last part that counts there (`Path.directory?_eq_some_iff`).
A path of one part that counts mentions none (`Path.directory?_eq_none_iff`).
-/
import ListOps.Proofs.Text
import ListOps.Storage.Path

namespace ListOps.Path

set_option autoImplicit false

/-! ## Parts that count -/

/-- A part that leads nowhere. -/
def Idle (part : String) : Prop :=
  part = "" ∨ part = "."

instance : DecidablePred Idle :=
  fun part => inferInstanceAs (Decidable (part = "" ∨ part = "."))

/-- `last` is the last part that counts, and `front` is what stands in front of it. -/
def EndsIn (parts front : List String) (last : String) : Prop :=
  ∃ idle, parts = front ++ last :: idle ∧ (∀ part ∈ idle, Idle part) ∧ (front = [] ∨ ¬ Idle last)

theorem exists_endsIn {parts : List String} (nonempty : parts ≠ []) :
    ∃ front last, EndsIn parts front last := by
  induction parts with
  | nil => exact absurd rfl nonempty
  | cons part rest ih =>
    by_cases idle : ∀ other ∈ rest, Idle other
    · exact ⟨[], part, rest, rfl, idle, .inl rfl⟩
    · have later : rest ≠ [] := by
        rintro rfl
        exact idle (by simp)
      obtain ⟨front, last, behind, rfl, idles, counts⟩ := ih later
      refine ⟨part :: front, last, behind, rfl, idles, .inr fun idle' => idle ?_⟩
      -- an idle last part would be the first one of `rest`
      obtain rfl := counts.resolve_right (not_not_intro idle')
      exact List.forall_mem_cons.mpr ⟨idle', idles⟩

theorem beginnings_of_idle {idle before : List String} (idles : ∀ part ∈ idle, Idle part)
    (nonempty : before ≠ []) : beginnings (idle ++ before) = beginnings before := by
  induction idle with
  | nil => rfl
  | cons part rest ih =>
    rw [List.forall_mem_cons] at idles
    have inner : (rest ++ before).isEmpty = false := by simp [nonempty]
    have passed : (part != "" && part != ".") = false := by
      rcases idles.1 with rfl | rfl <;> rfl
    rw [List.cons_append, beginnings, inner, passed]
    exact ih idles.2

/-- The longest beginning ends in the last part that counts. -/
theorem beginnings_reverse {parts front : List String} {last : String}
    (ends : EndsIn parts front last) :
    beginnings parts.reverse = (last :: front.reverse) :: beginnings front.reverse := by
  obtain ⟨idle, rfl, idles, counts⟩ := ends
  have backward : (front ++ last :: idle).reverse = idle.reverse ++ (last :: front.reverse) := by
    simp
  have counted : (front.reverse.isEmpty || (last != "" && last != ".")) = true := by
    rcases counts with rfl | busy
    · rfl
    · rw [Idle, not_or] at busy
      simp [busy]
  rw [backward, beginnings_of_idle (by simpa using idles) (List.cons_ne_nil _ _), beginnings,
    if_pos counted]

/-! ## The directory around a file -/

variable {path directory : String}

theorem parts_ne_nil (path : String) : parts path ≠ [] :=
  mt List.map_eq_nil_iff.mp (Chars.splitFrom_ne_nil '/' [] path.toList)

theorem ancestors_eq {front : List String} {last : String} (ends : EndsIn (parts path) front last) :
    ancestors path = (beginnings front.reverse).map ofParts := by
  rw [ancestors, beginnings_reverse ends, List.tail_cons]

theorem directory?_of_endsIn {around front : List String} {last counting : String}
    (ends : EndsIn (parts path) around last) (ends' : EndsIn around front counting) :
    directory? path = some (ofParts (counting :: front.reverse)) := by
  rw [directory?, ancestors_eq ends, beginnings_reverse ends']
  rfl

theorem directory?_of_first {first : String} (ends : EndsIn (parts path) [] first) :
    directory? path = none := by
  rw [directory?, ancestors_eq ends]
  rfl

/-- A path is one part that counts, or there are more in front of the last one. -/
theorem endsIn_cases (path : String) : (∃ first, EndsIn (parts path) [] first) ∨
    ∃ around last front counting, EndsIn (parts path) around last ∧
      EndsIn around front counting := by
  obtain ⟨around, last, ends⟩ := exists_endsIn (parts_ne_nil path)
  cases around with
  | nil => exact .inl ⟨last, ends⟩
  | cons part rest =>
    obtain ⟨front, counting, ends'⟩ := exists_endsIn (List.cons_ne_nil part rest)
    exact .inr ⟨part :: rest, last, front, counting, ends, ends'⟩

/-- **The directory around a file is the path in front of its last part that counts**,
itself up to the last part that counts there. -/
theorem directory?_eq_some_iff : directory? path = some directory ↔
    ∃ around last front counting, EndsIn (parts path) around last ∧
      EndsIn around front counting ∧ directory = ofParts (counting :: front.reverse) := by
  constructor
  · intro mentioned
    rcases endsIn_cases path with ⟨first, ends⟩ | ⟨around, last, front, counting, ends, ends'⟩
    · rw [directory?_of_first ends] at mentioned
      cases mentioned
    · rw [directory?_of_endsIn ends ends', Option.some.injEq] at mentioned
      exact ⟨around, last, front, counting, ends, ends', mentioned.symm⟩
  · rintro ⟨around, last, front, counting, ends, ends', rfl⟩
    exact directory?_of_endsIn ends ends'

/-- A path of one part that counts mentions no directory. -/
theorem directory?_eq_none_iff :
    directory? path = none ↔ ∃ first, EndsIn (parts path) [] first := by
  constructor
  · intro unmentioned
    rcases endsIn_cases path with first | ⟨around, last, front, counting, ends, ends'⟩
    · exact first
    · rw [directory?_of_endsIn ends ends'] at unmentioned
      cases unmentioned
  · rintro ⟨first, ends⟩
    exact directory?_of_first ends

/-! ## The text of a beginning -/

theorem not_mem_of_mem_parts {part : String} (member : part ∈ parts path) : '/' ∉ part.toList := by
  obtain ⟨piece, inside, rfl⟩ := List.mem_map.mp member
  rw [String.toList_ofList]
  exact Chars.not_mem_of_mem_splitOn inside

/-- Parts can be read off the path that they are put together to. -/
theorem parts_intercalate {pieces : List String} (nonempty : pieces ≠ [])
    (absent : ∀ piece ∈ pieces, '/' ∉ piece.toList) : parts ("/".intercalate pieces) = pieces := by
  have separator : "/".toList = ['/'] := rfl
  rw [parts, String.toList_intercalate, separator, Chars.splitOn_intercalate (by simpa using nonempty)
    (by simpa using absent), List.map_map]
  simp

/-- A path starts at the root if its first part is empty and not the only one. -/
theorem isAbsolute_iff :
    isAbsolute path = true ↔ ∃ rest, rest ≠ [] ∧ parts path = "" :: rest := by
  rw [isAbsolute, decide_eq_true_iff]
  constructor
  · intro rooted
    obtain ⟨rest, spelled⟩ := List.head?_eq_some_iff.mp rooted
    have cut : Chars.splitOn '/' ([] ++ '/' :: rest) = [] :: Chars.splitOn '/' rest :=
      Chars.splitOn_append List.not_mem_nil rest
    refine ⟨(Chars.splitOn '/' rest).map String.ofList,
      mt List.map_eq_nil_iff.mp (Chars.splitFrom_ne_nil '/' [] rest), ?_⟩
    rw [parts, spelled]
    exact congrArg (List.map String.ofList) cut
  · rintro ⟨rest, nonempty, spelled⟩
    obtain ⟨piece, pieces, cut, empty, rfl⟩ := List.map_eq_cons_iff.mp spelled
    obtain ⟨next, later, rfl⟩ := List.exists_cons_of_ne_nil (mt List.map_eq_nil_iff.mpr nonempty)
    rw [← Chars.intercalate_splitOn '/' path.toList, cut, String.ofList_eq_empty_iff.mp empty]
    rfl

end ListOps.Path
