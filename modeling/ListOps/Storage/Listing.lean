/-
# ListOps.Storage.Listing -- everything in the working directory
-/
import ListOps.Storage.Disk

namespace ListOps.Disk

set_option autoImplicit false

/-- A disk with an empty working directory. -/
def fresh : Disk where
  entries := [(["work"], .directory)]
  workingDirectory := ["work"]

/-- The path of a place in the working directory, as seen from there. -/
def relative? (disk : Disk) (place : Place) : Option String :=
  let inside := place.take (place.length - disk.workingDirectory.length)
  if disk.workingDirectory.isSuffixOf place && !inside.isEmpty then
    some ("/".intercalate inside.reverse)
  else none

/-- All files in the working directory with their contents, and all directories
there, written with a slash at the end. -/
def listing (disk : Disk) : List (String × Option String) :=
  disk.entries.filterMap fun (place, entry) =>
    (disk.relative? place).map fun path =>
      match entry with
      | .directory => (path ++ "/", none)
      | .file content => (path, some content)

example :
    (fresh.makeDirectories ["a/b", "a"]).1.listing = [("a/b/", none), ("a/", none)] := by
  decide +kernel

end ListOps.Disk
