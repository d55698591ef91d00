/-
# ListOps.Storage.Path -- paths as they are written

A path is a text whose parts stand between slashes.  Empty parts and single
dots change nothing, but for a dot that is the first part of all, so they are
passed over when the directory around a file is asked for.  The text of a
directory on the way is the path up to there, exactly as it was written.
-/
import ListOps.Text.Split

namespace ListOps.Path

set_option autoImplicit false

/-- The parts of a path, first to last. -/
def parts (path : String) : List String :=
  (Chars.splitOn '/' path.toList).map String.ofList

/-- Does the path start at the root? -/
def isAbsolute (path : String) : Bool :=
  path.toList.head? = some '/'

/-- The beginnings of a path that end in a part that counts, the longest one
first; paths are given last part first here.  The first part of all counts
whatever it is; if it is empty, it is the root. -/
def beginnings : List String → List (List String)
  | [] => []
  | part :: before =>
      if before.isEmpty || (part != "" && part != ".") then
        (part :: before) :: beginnings before
      else beginnings before

/-- The text of a beginning of a path, given last part first. -/
def ofParts (parts : List String) : String :=
  if parts = [""] then "/" else "/".intercalate parts.reverse

/-- The directories on the way to the last part that counts, the innermost one
first. -/
def ancestors (path : String) : List String :=
  (beginnings (parts path).reverse).tail.map ofParts

/-- The directory around the file that the path names, if it has to be
mentioned: a single part lies in the working directory. -/
def directory? (path : String) : Option String :=
  (ancestors path).head?

example : ancestors "a/./b//c" = ["a/./b", "a"] ∧ ancestors "./n/../m" = ["./n/..", "./n", "."] ∧
    ancestors "/x" = ["/"] ∧ ancestors "x/" = [] := by
  decide

end ListOps.Path
