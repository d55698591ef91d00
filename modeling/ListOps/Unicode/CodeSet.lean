/-
# ListOps.Unicode.CodeSet -- character properties as ascending spans

A property of characters is kept the way the Unicode Character Database lists
it: closed spans of code points in ascending order, none touching the next.
`CodeSet.has` is the only reader.  `CodeSet.Ascending` is what makes a listing
canonical, and each table proves it of itself, so that a mistyped bound shows.

All property and case tables below this folder are those of Unicode 15.0.
-/

namespace ListOps.Unicode

set_option autoImplicit false

/-- A set of characters, as spans of code points with both ends included. -/
abbrev CodeSet := List (Nat × Nat)

namespace CodeSet

/-- Membership; the spans of a table are few enough to be read in order. -/
def has (set : CodeSet) (c : Char) : Bool :=
  set.any fun span => span.1 ≤ c.toNat && c.toNat ≤ span.2

/-- Every span is non-empty and ends before the next one starts, with a gap. -/
def Ascending : CodeSet → Bool
  | [] => true
  | [(low, high)] => low ≤ high
  | (low, high) :: (low', high') :: rest =>
      low ≤ high && high + 1 < low' && Ascending ((low', high') :: rest)

/-- How many code points the spans cover. -/
def count : CodeSet → Nat
  | [] => 0
  | (low, high) :: rest => (high + 1 - low) + count rest

theorem has_iff (set : CodeSet) (c : Char) :
    set.has c = true ↔ ∃ span ∈ set, span.1 ≤ c.toNat ∧ c.toNat ≤ span.2 := by
  simp [has]

end CodeSet

end ListOps.Unicode
