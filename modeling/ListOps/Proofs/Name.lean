/-
# ListOps.Proofs.Name -- which names can stand inside an identifier

A qualified name is a list of identifiers joined by dots (`Name.IsQualified`).  The
part behind the last dot is an identifier, so it could stand inside another one as
it is.  In a function's name it stands with its first letter in upper case, and
so the name is spoiled exactly if that letter has a marked capital
(`Name.isWordChar_suffix_iff`).  Names of scalars are plain ASCII once they are in
lower case, and never spoil anything (`DeclaredType.isWordChar_suffix_of_isScalar`).

What stands in front of the last dot is dropped, and does not show in what is left:
a dot opens a new word, and capitals neither bring in a dot nor remove one
(`Name.unqualified_capitalize`, `Name.suffix_ignores_qualifier`).
-/
import Mathlib.Data.List.TakeWhile
import ListOps.Proofs.Capitals
import ListOps.Proofs.DeclaredType

namespace ListOps

set_option autoImplicit false

open Unicode

/-! ## Behind the last separator -/

namespace Chars

variable {separator : Char}

theorem afterLast_eq_self {cs : List Char} (absent : separator ∉ cs) :
    afterLast separator cs = cs := by
  have whole : cs.reverse.takeWhile (· != separator) = cs.reverse := by
    refine List.takeWhile_eq_self_iff.mpr fun c inside => ?_
    rw [bne_iff_ne]
    rintro rfl
    exact absent (List.mem_reverse.mp inside)
  rw [afterLast, whole, List.reverse_reverse]

theorem afterLast_append (front rest : List Char) :
    afterLast separator (front ++ separator :: rest) = afterLast separator rest := by
  simp only [afterLast, List.reverse_append, List.reverse_cons, List.append_assoc]
  rw [List.takeWhile_append]
  split
  · rename_i whole
    have same : rest.reverse.takeWhile (· != separator) = rest.reverse :=
      (List.takeWhile_prefix _).eq_of_length whole
    rw [same]
    simp
  · rfl

/-- A text is what follows its last separator, with something in front. -/
theorem afterLast_cases (separator : Char) (cs : List Char) :
    cs = afterLast separator cs ∨ ∃ front, cs = front ++ separator :: afterLast separator cs := by
  by_cases inside : separator ∈ cs
  · obtain ⟨rest, front, split, absent⟩ := List.eq_append_cons_of_mem (List.mem_reverse.mpr inside)
    have same : cs = front.reverse ++ separator :: rest.reverse := by
      rw [← List.reverse_reverse cs, split]
      simp
    refine .inr ⟨front.reverse, ?_⟩
    rw [same, afterLast_append, afterLast_eq_self (by simpa using absent)]
  · exact .inl (afterLast_eq_self inside).symm

theorem not_mem_afterLast (cs : List Char) : separator ∉ afterLast separator cs := by
  intro inside
  rw [afterLast, List.mem_reverse] at inside
  simpa using List.mem_takeWhile_imp inside

end Chars

/-! ## Qualified names -/

namespace Name

theorem isIdentifier_append_iff {name s : String} (named : isIdentifier name = true) :
    isIdentifier (name ++ s) = true ↔ ∀ c ∈ s.toList, isWordChar c = true := by
  obtain ⟨first, rest, spelled, opens, follow⟩ := (isIdentifier_iff name).mp named
  rw [isIdentifier, String.toList_append, spelled, List.cons_append]
  simp only [opens, Bool.true_and, List.all_append, Bool.and_eq_true, List.all_eq_true]
  exact and_iff_right follow

/-- Identifiers joined by dots. -/
def IsQualified (s : String) : Prop :=
  ∃ parts : List String, parts ≠ [] ∧ (∀ part ∈ parts, isIdentifier part = true) ∧
    s = ".".intercalate parts

theorem isWordChar_of_mem {s : String} (named : isIdentifier s = true) {c : Char}
    (inside : c ∈ s.toList) : isWordChar c = true := by
  obtain ⟨first, rest, spelled, opens, follow⟩ := (isIdentifier_iff s).mp named
  rw [spelled] at inside
  rcases List.mem_cons.mp inside with rfl | later
  · exact isWordChar_of_isInitial opens
  · exact follow c later

theorem isWordChar_dot : isWordChar '.' = false := by
  decide +kernel

theorem isIdentifier_unqualified {s : String} (qualified : IsQualified s) :
    isIdentifier (unqualified s) = true := by
  obtain ⟨parts, nonempty, named, rfl⟩ := qualified
  induction parts with
  | nil => exact absurd rfl nonempty
  | cons part rest ih =>
    cases rest with
    | nil =>
      have own := named part List.mem_cons_self
      have absent : '.' ∉ part.toList := fun inside => by
        simpa [isWordChar_dot] using isWordChar_of_mem own inside
      have alone : unqualified (".".intercalate [part]) = part := by
        apply String.toList_inj.mp
        simpa [unqualified] using Chars.afterLast_eq_self absent
      rwa [alone]
    | cons next rest =>
      have behind : unqualified (".".intercalate (part :: next :: rest)) =
          unqualified (".".intercalate (next :: rest)) := by
        apply String.toList_inj.mp
        rw [unqualified, unqualified, Text.toList_afterLast, Text.toList_afterLast,
          String.toList_intercalate, String.toList_intercalate]
        exact Chars.afterLast_append part.toList _
      rw [behind]
      exact ih (by simp) fun later member => named later (List.mem_cons_of_mem part member)

theorem mem_qualified {s : String} (qualified : IsQualified s) {c : Char} (inside : c ∈ s.toList) :
    isWordChar c = true ∨ c = '.' := by
  obtain ⟨parts, -, named, rfl⟩ := qualified
  rw [String.toList_intercalate] at inside
  rcases Chars.mem_intercalate inside with dot | ⟨piece, member, within⟩
  · exact .inr (by simpa using dot)
  · obtain ⟨part, offered, rfl⟩ := List.mem_map.mp member
    exact .inl (isWordChar_of_mem (named part offered) within)

theorem not_mem_qualified {s : String} (qualified : IsQualified s) {c : Char}
    (outside : isWordChar c = false) (other : c ≠ '.') : c ∉ s.toList := by
  intro inside
  rcases mem_qualified qualified inside with word | dot
  · simp [outside] at word
  · exact other dot

/-! ## Capitalised names -/

theorem capitalizeFrom_false {cs : List Char} (words : ∀ c ∈ cs, isWordChar c = true) :
    capitalizeFrom false cs = cs := by
  induction cs with
  | nil => rfl
  | cons c rest ih =>
    rw [List.forall_mem_cons] at words
    rw [capitalizeFrom, words.1, Bool.not_true, ih words.2]
    rfl

theorem capitalizeFrom_word {c : Char} {rest : List Char}
    (words : ∀ d ∈ c :: rest, isWordChar d = true) :
    capitalizeFrom true (c :: rest) = upperChar c ++ rest := by
  rw [List.forall_mem_cons] at words
  rw [capitalizeFrom, words.1, Bool.not_true, capitalizeFrom_false words.2]
  rfl

/-- A dot opens a new word. -/
theorem capitalizeFrom_append_dot (start : Bool) (front rest : List Char) :
    capitalizeFrom start (front ++ '.' :: rest) =
      capitalizeFrom start front ++ '.' :: capitalizeFrom true rest := by
  induction front generalizing start with
  | nil =>
    have same : upperChar '.' = ['.'] := by decide
    have dot : capitalizeFrom start ('.' :: rest) =
        (if start then upperChar '.' else ['.']) ++ capitalizeFrom (!isWordChar '.') rest := rfl
    rw [List.nil_append, dot, isWordChar_dot, same, ite_self]
    rfl
  | cons c front ih => rw [List.cons_append, capitalizeFrom, capitalizeFrom, ih, List.append_assoc]

/-- Dots stay where they are, and capitals bring in none. -/
theorem dot_mem_capitalizeFrom_iff {start : Bool} {cs : List Char} :
    '.' ∈ capitalizeFrom start cs ↔ '.' ∈ cs := by
  constructor
  · intro inside
    rcases mem_capitalizeFrom inside with own | capital
    · exact own
    · exact absurd capital (by decide)
  · intro inside
    obtain ⟨front, rest, rfl⟩ := List.append_of_mem inside
    rw [capitalizeFrom_append_dot]
    exact List.mem_append_right _ List.mem_cons_self

/-- Capitals do not move the last dot, and what stands behind it is capitalised on its
own. -/
theorem unqualified_capitalize (s : String) :
    unqualified (capitalize s) = capitalize (unqualified s) := by
  have noDot : '.' ∉ capitalizeFrom true (Chars.afterLast '.' s.toList) :=
    mt dot_mem_capitalizeFrom_iff.mp (Chars.not_mem_afterLast s.toList)
  apply String.toList_inj.mp
  simp only [unqualified, Text.toList_afterLast, toList_capitalize]
  rcases Chars.afterLast_cases '.' s.toList with alone | ⟨front, behind⟩
  · rw [← alone] at noDot ⊢
    exact Chars.afterLast_eq_self noDot
  · conv_lhs => rw [behind]
    rw [capitalizeFrom_append_dot, Chars.afterLast_append, Chars.afterLast_eq_self noDot]

section

variable {s : String} {c : Char} {rest : List Char} (last : (unqualified s).toList = c :: rest)
  (words : ∀ d ∈ c :: rest, isWordChar d = true)

include last words

theorem toList_unqualified_capitalize :
    (unqualified (capitalize s)).toList = upperChar c ++ rest := by
  rw [unqualified_capitalize, toList_capitalize, last, capitalizeFrom_word words]

/-- **Only a marked capital spoils a name** that could stand inside an identifier. -/
theorem isWordChar_suffix_iff :
    (∀ d ∈ (suffix s).toList, isWordChar d = true) ↔ c.toNat ∉ markedCapitals := by
  have titled := toList_unqualified_capitalize last words
  have tail : ∀ d ∈ rest, isWordChar d = true := fun d inside => words d (by simp [inside])
  rw [← isWordChar_upperChar_iff (words c (by simp))]
  by_cases shortened : capitalize s = "String"
  · have letters : ("String".toList.all isWordChar && "Str".toList.all isWordChar) = true := by
      decide
    simp only [Bool.and_eq_true, List.all_eq_true] at letters
    have short : suffix s = "Str" := if_pos shortened
    rw [short]
    refine iff_of_true letters.2 fun d inside => letters.1 d ?_
    rw [← shortened]
    exact mem_unqualified (by rw [titled]; exact List.mem_append_left rest inside)
  · have whole : suffix s = unqualified (capitalize s) := if_neg shortened
    rw [whole, titled, List.forall_mem_append]
    exact and_iff_left tail

end

/-! ## Qualifiers -/

/-- Only the unqualified `String` is shortened, however its letters are written. -/
theorem suffix_eq (s : String) :
    suffix s = if capitalize s = "String" then "Str" else capitalize (unqualified s) := by
  rw [← unqualified_capitalize]
  rfl

theorem capitalize_ne_of_dot {s : String} (dot : '.' ∈ s.toList) : capitalize s ≠ "String" := by
  intro same
  have kept : '.' ∈ (capitalize s).toList := by
    rw [toList_capitalize]
    exact dot_mem_capitalizeFrom_iff.mpr dot
  rw [same] at kept
  exact absurd kept (by decide)

/-- **The qualifier does not show in a suffix.**  It may be dropped before or after
capitals are put in, no dot is left, and a qualified name has the capitalised name behind
the last dot as its suffix, whatever stands in front of the dot.  So a name whose suffix
is shortened to `Str` has no qualifier. -/
theorem suffix_ignores_qualifier :
    (∀ s, unqualified (capitalize s) = capitalize (unqualified s)) ∧
    (∀ s, '.' ∉ (suffix s).toList) ∧
    (∀ qualifier name, '.' ∉ name.toList → suffix (qualifier ++ "." ++ name) = capitalize name) ∧
    ∀ s, suffix s ≠ capitalize (unqualified s) → suffix s = "Str" ∧ '.' ∉ s.toList := by
  refine ⟨unqualified_capitalize, fun s => ?_, fun qualifier name noDot => ?_, fun s other => ?_⟩
  · rw [suffix]
    split
    · decide
    · rw [unqualified, Text.toList_afterLast]
      exact Chars.not_mem_afterLast _
  · have spelled : (qualifier ++ "." ++ name).toList = qualifier.toList ++ '.' :: name.toList := by
      simp [String.toList_append]
    have behind : unqualified (qualifier ++ "." ++ name) = name := by
      apply String.toList_inj.mp
      rw [unqualified, Text.toList_afterLast, spelled, Chars.afterLast_append,
        Chars.afterLast_eq_self noDot]
    rw [suffix_eq, if_neg (capitalize_ne_of_dot (by simp [spelled])), behind]
  · by_cases shortened : capitalize s = "String"
    · rw [suffix_eq, if_pos shortened]
      exact ⟨rfl, fun dot => capitalize_ne_of_dot dot shortened⟩
    · rw [suffix_eq, if_neg shortened] at other
      exact absurd rfl other

/-- A qualified `string` keeps its letters, an unqualified one is shortened. -/
theorem suffix_ignores_qualifier_string :
    '.' ∉ "string".toList ∧ suffix ("é..p" ++ "." ++ "string") = capitalize "string" ∧
    suffix "string" ≠ capitalize (unqualified "string") ∧ suffix "string" = "Str" := by
  have noDot : '.' ∉ "string".toList := by decide
  have shortened : suffix "string" ≠ capitalize (unqualified "string") := by decide
  exact ⟨noDot, suffix_ignores_qualifier.2.2.1 "é..p" "string" noDot, shortened,
    (suffix_ignores_qualifier.2.2.2 "string" shortened).1⟩

end Name

/-! ## Scalars -/

theorem Scalar.isWordChar_of_isSpellingChar {c : Char} (spelled : isSpellingChar c = true) :
    Name.isWordChar c = true := by
  simp only [isSpellingChar, Bool.or_eq_true, Bool.and_eq_true, decide_eq_true_eq] at spelled
  rcases spelled with digit | letter
  · have number : isNumber c = true :=
      (CodeSet.has_iff _ c).mpr ⟨(0x30, 0x39), by decide, digit.1, digit.2⟩
    simp [Name.isWordChar, isAlphanumeric, number]
  · exact Name.isWordChar_of_isAlphabetic
      ((CodeSet.has_iff _ c).mpr ⟨(0x61, 0x7A), by decide, letter.1, letter.2⟩)

namespace DeclaredType

variable {recognition : Recognition} {names : List String} {type : DeclaredType}
  (declared : type ∈ ofNames recognition names) (qualified : Name.IsQualified type.name)

include declared qualified

theorem isSpellingChar_of_mem_valueType (scalar : type.isScalar = true) {c : Char}
    (inside : c ∈ type.valueType.toList) : Scalar.isSpellingChar c = true := by
  rcases Scalar.mem_listing ((valueType_infix_listing declared scalar).subset inside) with
    spelled | between
  · exact spelled
  -- commas and spaces stand in no qualified name, and lower case brings in none
  · have outside : Name.isWordChar c = false ∧ c ≠ '.' ∧ c.toNat < 'a'.toNat := by
      simp only [List.mem_cons, List.not_mem_nil, or_false] at between
      rcases between with rfl | rfl <;> decide +kernel
    rw [valueType, if_pos scalar, Text.toList_lower] at inside
    rcases Chars.mem_lower inside with own | small
    · exact absurd own (Name.not_mem_qualified qualified outside.1 outside.2.1)
    · omega

/-- Scalars never spoil a name. -/
theorem isWordChar_suffix_of_isScalar (scalar : type.isScalar = true) :
    ∀ c ∈ type.suffix.toList, Name.isWordChar c = true := by
  have spelled := fun c => isSpellingChar_of_mem_valueType declared qualified scalar (c := c)
  have words : ∀ c ∈ type.valueType.toList, Name.isWordChar c = true := fun c inside =>
    Scalar.isWordChar_of_isSpellingChar (spelled c inside)
  have alone : (Name.unqualified type.valueType).toList = type.valueType.toList := by
    refine (Text.toList_afterLast '.' _).trans (Chars.afterLast_eq_self fun inside => ?_)
    simpa [Name.isWordChar_dot] using words '.' inside
  cases first : type.valueType.toList with
  | nil =>
    obtain ⟨name, -, -, nonblank, -⟩ := mem_ofNames declared
    have empty := lower_valueType declared
    rw [String.toList_eq_nil_iff.mp first, Text.lower_eq_empty_iff.mpr rfl, eq_comm,
      Text.lower_eq_empty_iff] at empty
    exact absurd empty nonblank
  | cons c rest =>
    rw [first] at words alone
    refine (Name.isWordChar_suffix_iff alone words).mpr fun marked => ?_
    have ascii := spelled c (by simp [first])
    simp only [Scalar.isSpellingChar, Bool.or_eq_true, Bool.and_eq_true, decide_eq_true_eq] at ascii
    have high : ∀ code ∈ markedCapitals, 0x7A < code := by decide
    have bound := high _ marked
    omega

end DeclaredType

end ListOps
