/-
# ListOps.Catalogue.Pairs -- operations on two types

Conversions take a list of one type to a list of another.  Combinations build a
map from keys of the first type to values of the second; with equal types the
suffixes may be empty.
-/
import ListOps.Catalogue.Operation

namespace ListOps.Catalogue

set_option autoImplicit false

namespace Conversion

def suffix : String := Placeholder.inputSuffix.token ++ Placeholder.outputSuffix.token

def input : String := Placeholder.inputType.token

def output : String := Placeholder.outputType.token

def map : Operation :=
  Catalogue.map "map-io" suffix input output
    "converts every element of list with f and returns the results in order."

def parallelMap : Operation :=
  Catalogue.parallelMap "parallel-map-io" suffix input output
    "converts every element of list with f concurrently, keeping input order."

def filterMap : Operation :=
  Catalogue.filterMap "filter-map-io" suffix input output
    "converts with fMap the elements of list for which fFilter returns true."

/-- All of them, in the order of generation. -/
def all : List Operation :=
  [map, parallelMap, filterMap]

end Conversion

namespace Combination

def suffix : String := Placeholder.firstSuffix.token ++ Placeholder.secondSuffix.token

def key : String := Placeholder.firstType.token

def value : String := Placeholder.secondType.token

/-- The type of maps from keys to values. -/
def mapType : String := s!"map[{key}]{value}"

/-- Copy every entry of the map called `source`. -/
def copyEntries (source : String) : Code :=
  .block ("for k, v := range " ++ source) [.line "newMap[k] = v"]

def merge : Operation where
  label := "merge"
  verb := "Merge"
  suffix := suffix
  summary := "copies map1 and map2 into a new map; keys in map2 win."
  parameters := "map1, map2 " ++ mapType
  result := mapType
  body := [
    .line s!"newMap := make({mapType}, len(map1)+len(map2))",
    copyEntries "map1",
    copyEntries "map2",
    .line "return newMap"]

def zip : Operation where
  label := "zip"
  verb := "Zip"
  suffix := suffix
  summary := "pairs list1[i] with list2[i] up to the shorter length."
  parameters := s!"list1 []{key}, list2 []{value}"
  result := mapType
  body := [
    .line "minLen := len(list1)",
    .block "if len(list2) < minLen" [.line "minLen = len(list2)"],
    .line s!"newMap := make({mapType}, minLen)",
    .block "for i := 0; i < minLen; i++" [.line "newMap[list1[i]] = list2[i]"],
    .line "return newMap"]

/-- All of them, in the order of generation. -/
def all : List Operation :=
  [merge, zip]

end Combination

end ListOps.Catalogue
