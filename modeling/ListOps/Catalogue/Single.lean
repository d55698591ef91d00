/-
# ListOps.Catalogue.Single -- operations on lists of one type

Each of them appends to its name what the carried type name gives, so the
package's own type may get the bare name (`Map`) and others a longer one
(`MapTeacher`).
-/
import ListOps.Catalogue.Operation

namespace ListOps.Catalogue.Single

set_option autoImplicit false

def suffix : String := Placeholder.nameSuffix.token

def element : String := Placeholder.elementType.token

def elements : String := "[]" ++ element

/-- A function of a predicate and a list. -/
def byPredicate (label verb summary result : String) (body : List Code) : Operation where
  label := label
  verb := verb
  suffix := suffix
  summary := summary
  parameters := s!"f func({element}) bool, list {elements}"
  result := result
  body := body

def map : Operation :=
  Catalogue.map "map" suffix element element
    "applies f to every element of list and returns the results in order."

def filter : Operation :=
  byPredicate "filter" "Filter"
    "returns the elements of list for which f returns true." elements [
    returnIf "f == nil" (noElements element),
    .line s!"var newList {elements}",
    forEach [.block "if f(v)" [.line "newList = append(newList, v)"]],
    .line "return newList"]

def remove : Operation :=
  byPredicate "remove" "Remove"
    "returns the elements of list for which f returns false." elements [
    returnIf "f == nil" (noElements element),
    .line s!"var newList {elements}",
    forEach [.block "if !f(v)" [.line "newList = append(newList, v)"]],
    .line "return newList"]

def some : Operation :=
  byPredicate "some" "Some"
    "reports whether f returns true for at least one element of list." "bool" [
    returnIf "f == nil" "false",
    forEach [returnIf "f(v)" "true"],
    .line "return false"]

def every : Operation :=
  byPredicate "every" "Every"
    "reports whether f returns true for every element of a non-empty list." "bool" [
    returnIf "f == nil || len(list) == 0" "false",
    forEach [returnIf "!f(v)" "false"],
    .line "return true"]

def dropWhile : Operation :=
  byPredicate "drop-while" "DropWhile"
    "drops leading elements while f returns true and returns the rest." elements [
    returnIf "f == nil" (noElements element),
    .block "for i, v := range list" [
      .block "if !f(v)" [
        .line s!"newList := make({elements}, len(list)-i)",
        .line "copy(newList, list[i:])",
        .line "return newList"]],
    .line ("return " ++ noElements element)]

def takeWhile : Operation :=
  byPredicate "take-while" "TakeWhile"
    "returns leading elements of list while f returns true." elements [
    returnIf "f == nil" (noElements element),
    .line s!"var newList {elements}",
    forEach [
      returnIf "!f(v)" "newList",
      .line "newList = append(newList, v)"],
    .line "return newList"]

def parallelMap : Operation :=
  Catalogue.parallelMap "parallel-map" suffix element element
    "applies f to every element of list concurrently, keeping input order."

def filterMap : Operation :=
  Catalogue.filterMap "filter-map" suffix element element
    "applies fMap to the elements of list for which fFilter returns true."

/-- All of a list but one element at an end: `kept` is the part that stays. -/
def shortened (label verb summary kept : String) : Operation where
  label := label
  verb := verb
  suffix := suffix
  summary := summary
  parameters := "list " ++ elements
  result := elements
  body := [
    returnIf "len(list) <= 1" (noElements element),
    .line s!"newList := make({elements}, len(list)-1)",
    .line s!"copy(newList, list[{kept}])",
    .line "return newList"]

def rest : Operation :=
  shortened "rest" "Rest" "returns every element of list after the first." "1:"

def reduce : Operation where
  label := "reduce"
  verb := "Reduce"
  suffix := suffix
  summary :=
    "folds list with f, starting from the optional initializer or the first element."
  parameters :=
    s!"f func({element}, {element}) {element}, list {elements}, initializer ...{element}"
  result := element
  body := [
    .line s!"var acc {element}",
    .blockElse "if len(initializer) > 0" [.line "acc = initializer[0]"]
      "if len(list) > 0" [.line "acc = list[0]", .line "list = list[1:]"],
    returnIf "f == nil" "acc",
    forEach [.line "acc = f(acc, v)"],
    .line "return acc"]

def dropLast : Operation :=
  shortened "drop-last" "DropLast" "returns every element of list except the last." ":len(list)-1"

/-- All of them, in the order of generation. -/
def all : List Operation :=
  [map, filter, remove, some, every, dropWhile, takeWhile, parallelMap, filterMap, rest, reduce,
   dropLast]

end ListOps.Catalogue.Single
