/-
# ListOps.FirstOccurrences -- each entry once, where it came first

Two entries are the same if they have the same key; the first one stands for
all, and the order is kept.
-/
import ListOps.Text.Case
import ListOps.Text.Trim

namespace ListOps

set_option autoImplicit false

universe u v

section

variable {α : Type u} {κ : Type v} [BEq κ]

/-- The entries whose key is neither in `seen` nor the key of an earlier one. -/
def firstOccurrencesFrom (key : α → κ) (seen : List κ) : List α → List α
  | [] => []
  | a :: rest =>
      if seen.contains (key a) then firstOccurrencesFrom key seen rest
      else a :: firstOccurrencesFrom key (key a :: seen) rest

/-- The first entry with each key. -/
def firstOccurrences (key : α → κ) (entries : List α) : List α :=
  firstOccurrencesFrom key [] entries

end

namespace Text

/-- The trimmed entries, each once. -/
def distinct (entries : List String) : List String :=
  firstOccurrences id (entries.map trim)

/-- The trimmed entries, each once up to case, in the spelling of its first
occurrence. -/
def distinctIgnoringCase (entries : List String) : List String :=
  firstOccurrences lower (entries.map trim)

end Text

end ListOps
