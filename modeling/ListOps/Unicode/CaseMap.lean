/-
# ListOps.Unicode.CaseMap -- case mappings of single characters

A case mapping sends most characters to themselves.  The others come in runs
whose images advance with the character: `A`..`Z`, or every second character of
the extended Latin letters, where both cases of a letter are neighbours.  A
few have more than one character as their image; these are listed one by one.
-/

namespace ListOps.Unicode

set_option autoImplicit false

/-- The characters `first`, `first + step`, ..., `last`, sent to as many
characters from `image` on, at the same distances. -/
structure CaseRun where
  first : Nat
  last : Nat
  step : Nat
  image : Nat
deriving DecidableEq

namespace CaseRun

def covers (run : CaseRun) (code : Nat) : Bool :=
  run.first ≤ code && code ≤ run.last && (code - run.first) % run.step == 0

def target (run : CaseRun) (code : Nat) : Nat :=
  run.image + (code - run.first)

end CaseRun

/-- A case mapping: `longer` lists the characters whose image has several
characters, `runs` the others that change. -/
structure CaseMap where
  runs : List CaseRun
  longer : List (Nat × List Nat)

namespace CaseMap

/-- The image of one character, on its own and free of context. -/
def image (map : CaseMap) (c : Char) : List Char :=
  match map.longer.find? fun entry => entry.1 == c.toNat with
  | some entry => entry.2.map Char.ofNat
  | none =>
    match map.runs.find? fun run => run.covers c.toNat with
    | some run => [Char.ofNat (run.target c.toNat)]
    | none => [c]

/-- Each run starts after the last one's start, and no run is empty. -/
def Ascending : List CaseRun → Bool
  | [] => true
  | [run] => run.first ≤ run.last
  | run :: next :: rest =>
      run.first ≤ run.last && run.first < next.first && Ascending (next :: rest)

end CaseMap

end ListOps.Unicode
