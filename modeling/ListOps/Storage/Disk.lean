/-
# ListOps.Storage.Disk -- a tree of files and directories

A disk is seen through `Disk.get?`: what there is at a place, if anything.  A
place is the list of names from the root, innermost name first, so going up is
taking the tail.  Paths are followed part by part (`Disk.walk`); everything on
the way has to be a directory.  There are no links.

Making a directory and writing a file change nothing unless they succeed, and
then only the place that the path names.  Making a directory with all that are
missing above it may fail half way, with the outer ones made.
-/
import ListOps.Storage.Path

namespace ListOps

set_option autoImplicit false

/-- Why a path cannot be used. -/
inductive StorageError
  | notFound
  | alreadyExists
  | notADirectory
  | isADirectory
  | nameTooLong
deriving DecidableEq

namespace StorageError

def message : StorageError → String
  | notFound => "No such file or directory (os error 2)"
  | alreadyExists => "File exists (os error 17)"
  | notADirectory => "Not a directory (os error 20)"
  | isADirectory => "Is a directory (os error 21)"
  | nameTooLong => "File name too long (os error 36)"

end StorageError

/-- The names that lead to an entry, innermost first; the root has none. -/
abbrev Place := List String

inductive Entry
  | directory
  | file (content : String)
deriving DecidableEq

structure Disk where
  entries : List (Place × Entry)
  workingDirectory : Place
deriving DecidableEq

/-- Leaving out one key changes nothing for the others. -/
theorem lookup_filter_of_ne {κ α : Type} [BEq κ] [LawfulBEq κ] {key other : κ} (ne : other ≠ key)
    (entries : List (κ × α)) :
    (entries.filter (·.1 != key)).lookup other = entries.lookup other := by
  induction entries with
  | nil => rfl
  | cons head rest ih =>
    obtain ⟨there, entry⟩ := head
    by_cases same : there = key
    · have differs : (other == key) = false := beq_eq_false_iff_ne.mpr ne
      simp [same, differs, ih, List.lookup_cons]
    · simp [same, ih, List.lookup_cons]

namespace Disk

/-- What there is at a place.  The root is always there. -/
def get? (disk : Disk) (place : Place) : Option Entry :=
  if place = [] then some .directory else disk.entries.lookup place

/-- Put an entry at a place. -/
def put (disk : Disk) (place : Place) (entry : Entry) : Disk :=
  { disk with entries := (place, entry) :: disk.entries.filter (·.1 != place) }

/-- Putting an entry somewhere changes nothing elsewhere. -/
theorem get?_put_of_ne (disk : Disk) {place other : Place} (entry : Entry)
    (ne : other ≠ place) : (disk.put place entry).get? other = disk.get? other := by
  simp only [get?, put, List.lookup_cons, lookup_filter_of_ne ne, beq_eq_false_iff_ne.mpr ne]

theorem get?_put_self (disk : Disk) {place : Place} (entry : Entry) (ne : place ≠ []) :
    (disk.put place entry).get? place = some entry := by
  simp [get?, put, ne]

/-! ## Following paths -/

/-- Longest name of an entry, in bytes. -/
def maxNameLength : Nat := 255

/-- Shortest path, in bytes, that is too long. -/
def maxPathLength : Nat := 4096

/-- Look a name up in a directory. -/
def child (disk : Disk) (place : Place) (name : String) : Except StorageError (Option Entry) :=
  if name.utf8ByteSize > maxNameLength then .error .nameTooLong
  else .ok (disk.get? (name :: place))

/-- One step on the way, which has to lead to a directory. -/
def enter (disk : Disk) (place : Place) (part : String) : Except StorageError Place :=
  if part = "" ∨ part = "." then .ok place
  else if part = ".." then .ok place.tail
  else
    match disk.child place part with
    | .ok (some .directory) => .ok (part :: place)
    | .ok (some (.file _)) => .error .notADirectory
    | .ok none => .error .notFound
    | .error error => .error error

/-- Go through directories, from the first part to the last. -/
def walk (disk : Disk) (place : Place) (parts : List String) : Except StorageError Place :=
  parts.foldlM disk.enter place

/-- Where a path starts. -/
def start (disk : Disk) (path : String) : Place :=
  if Path.isAbsolute path then [] else disk.workingDirectory

/-- The last part of a path, once the way to it is found. -/
structure Location where
  /-- The directory that the last part is looked up in. -/
  place : Place
  /-- The last part that is not empty; empty if the path has none. -/
  last : String
  /-- Does a slash follow the last part? -/
  closed : Bool

/-- The place that the whole path names, if its last part is a name. -/
def Location.target (location : Location) : Place :=
  location.last :: location.place

/-- Follow a path up to its last part. -/
def locate (disk : Disk) (path : String) : Except StorageError Location :=
  let backward := (Path.parts path).reverse
  if path.utf8ByteSize ≥ maxPathLength then .error .nameTooLong
  else
    match backward.dropWhile (· = "") with
    | [] => .ok ⟨[], "", true⟩
    | last :: above =>
        match disk.walk (disk.start path) above.reverse with
        | .ok place => .ok ⟨place, last, backward.head? = some ""⟩
        | .error error => .error error

/-- Does the path lead to a directory? -/
def isDirectory (disk : Disk) (path : String) : Bool :=
  path.utf8ByteSize < maxPathLength && (disk.walk (disk.start path) (Path.parts path)).isOk

/-- Is the part one that names no entry of its own? -/
def isStep (part : String) : Bool :=
  part = "" || part = "." || part = ".."

/-! ## Changes -/

/-- Make one directory where there is nothing yet. -/
def makeDirectory (disk : Disk) (path : String) : Except StorageError Disk := do
  let location ← disk.locate path
  if isStep location.last then throw .alreadyExists
  else
    match ← disk.child location.place location.last with
    | some _ => throw .alreadyExists
    | none => return disk.put location.target .directory

/-- Make a file, or replace the content of the one that is there. -/
def write (disk : Disk) (path content : String) : Except StorageError Disk := do
  let location ← disk.locate path
  if isStep location.last || location.closed then throw .isADirectory
  else
    match ← disk.child location.place location.last with
    | some .directory => throw .isADirectory
    | _ => return disk.put location.target (.file content)

theorem child_eq_ok {disk : Disk} {place : Place} {name : String} {entry : Option Entry}
    (h : disk.child place name = .ok entry) : disk.get? (name :: place) = entry := by
  unfold child at h
  split at h
  · contradiction
  · exact Except.ok.inj h

/-- A directory that was made is all that changed, and nothing was there. -/
theorem put_of_makeDirectory {disk after : Disk} {path : String}
    (h : disk.makeDirectory path = .ok after) :
    ∃ location, disk.locate path = .ok location ∧ disk.get? location.target = none ∧
      after = disk.put location.target .directory := by
  unfold makeDirectory at h
  cases located : disk.locate path with
  | error => simp [located, bind, Except.bind] at h
  | ok location =>
    simp only [located, bind, Except.bind] at h
    split at h
    · contradiction
    · cases looked : disk.child location.place location.last with
      | error => simp [looked] at h
      | ok entry =>
        simp only [looked] at h
        cases entry with
        | some => contradiction
        | none => exact ⟨location, rfl, child_eq_ok looked, (Except.ok.inj h).symm⟩

/-- A file that was written is all that changed, and no directory was there. -/
theorem put_of_write {disk after : Disk} {path content : String}
    (h : disk.write path content = .ok after) :
    ∃ location, disk.locate path = .ok location ∧
      isStep location.last = false ∧ location.closed = false ∧
      disk.get? location.target ≠ some .directory ∧
      after = disk.put location.target (.file content) := by
  unfold write at h
  cases located : disk.locate path with
  | error => simp [located, bind, Except.bind] at h
  | ok location =>
    simp only [located, bind, Except.bind] at h
    split at h
    · contradiction
    · rename_i open_
      simp only [Bool.or_eq_true, not_or, Bool.not_eq_true] at open_
      cases looked : disk.child location.place location.last with
      | error => simp [looked] at h
      | ok entry =>
        simp only [looked] at h
        split at h
        · contradiction
        · rename_i other
          exact ⟨location, rfl, open_.1, open_.2,
            fun same => other ((child_eq_ok looked).symm.trans same), (Except.ok.inj h).symm⟩

/-- What an attempt to make a directory comes to: one that is there already will
do. -/
def settle (disk : Disk) (path : String) :
    Except StorageError Disk → Disk × Except StorageError Unit
  | .ok made => (made, .ok ())
  | .error error => (disk, if disk.isDirectory path then .ok () else .error error)

/-- Make the directory of the first path.  The others are the directories above
it, from the inside out; those that are missing are made on the way. -/
def makeDirectories (disk : Disk) : List String → Disk × Except StorageError Unit
  | [] => (disk, .ok ())
  | path :: above =>
      match disk.makeDirectory path with
      | .error .notFound =>
          match disk.makeDirectories above with
          | (outer, .ok ()) => outer.settle path (outer.makeDirectory path)
          | failed => failed
      | attempt => disk.settle path attempt

end Disk

end ListOps
