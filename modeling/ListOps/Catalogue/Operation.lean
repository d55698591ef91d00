/-
# ListOps.Catalogue.Operation -- what every generated operation looks like

An operation is a function with a comment in front that starts with its name.
The types it works on and the suffix of its name are tokens of its template,
filled in when the template is rendered.
-/
import ListOps.Code
import ListOps.Template

namespace ListOps

set_option autoImplicit false

/-- The token that stands for the placeholder in a template's body. -/
def Placeholder.token (placeholder : Placeholder) : String :=
  "<" ++ placeholder.name ++ ">"

/-- A list function of the generated code. -/
structure Operation where
  /-- How the operation's template is called. -/
  label : String
  /-- The first part of the function's name. -/
  verb : String
  /-- The rest of its name. -/
  suffix : String
  /-- What the function does, to be read with its name as the subject. -/
  summary : String
  parameters : String
  result : String
  body : List Code

namespace Operation

def name (operation : Operation) : String :=
  operation.verb ++ operation.suffix

/-- The comment and the function. -/
def code (operation : Operation) : Code :=
  .line ("// " ++ operation.name ++ " " ++ operation.summary) ++
    .block ("func " ++ operation.name ++ "(" ++ operation.parameters ++ ") " ++ operation.result)
      operation.body

/-- The template that writes the operation. -/
def template (family : Family) (operation : Operation) : Template where
  name := operation.label
  family := family
  body := operation.code.text

end Operation

/-! ## Fragments that many operations share -/

namespace Catalogue

/-- Leave the function early. -/
def returnIf (condition value : String) : Code :=
  .block ("if " ++ condition) [.line ("return " ++ value)]

def noElements (type : String) : String :=
  "[]" ++ type ++ "\x7b\x7d"

/-- Go through `list`, one element `v` after the other. -/
def forEach (parts : List Code) : Code :=
  .block "for _, v := range list" parts

/-- Make room for one result per element. -/
def makeResults (type : String) : Code :=
  .line s!"newList := make([]{type}, len(list))"

/-! ## Operations that turn lists into lists

These three exist for one type and for two: with equal input and output types
they keep the element type. -/

/-- One result per element, in order. -/
def map (label suffix input output summary : String) : Operation where
  label := label
  verb := "Map"
  suffix := suffix
  summary := summary
  parameters := s!"f func({input}) {output}, list []{input}"
  result := "[]" ++ output
  body := [
    returnIf "f == nil" (noElements output),
    makeResults output,
    .block "for i, v := range list" [.line "newList[i] = f(v)"],
    .line "return newList"]

/-- One result per element, all computed at once. -/
def parallelMap (label suffix input output summary : String) : Operation where
  label := label
  verb := "PMap"
  suffix := suffix
  summary := summary
  parameters := s!"f func({input}) {output}, list []{input}"
  result := "[]" ++ output
  body := [
    returnIf "f == nil" (noElements output),
    makeResults output,
    .line "var wg sync.WaitGroup",
    .line "wg.Add(len(list))",
    .block "for i, v := range list" [
      .blockThen s!"go func(i int, v {input})" [
        .line "defer wg.Done()",
        .line "newList[i] = f(v)"] "(i, v)"],
    .line "wg.Wait()",
    .line "return newList"]

/-- One result per element that passes. -/
def filterMap (label suffix input output summary : String) : Operation where
  label := label
  verb := "FilterMap"
  suffix := suffix
  summary := summary
  parameters := s!"fFilter func({input}) bool, fMap func({input}) {output}, list []{input}"
  result := "[]" ++ output
  body := [
    returnIf "fFilter == nil || fMap == nil" (noElements output),
    .line s!"var newList []{output}",
    forEach [.block "if fFilter(v)" [.line "newList = append(newList, fMap(v))"]],
    .line "return newList"]

end Catalogue

end ListOps
