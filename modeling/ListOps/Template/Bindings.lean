/-
# ListOps.Template.Bindings -- values for placeholders

A finite assignment, seen through `get?` alone: `get?_bind` says that a later
value replaces an earlier one and that no other placeholder is touched.
-/
import ListOps.Template.Placeholder

namespace ListOps

set_option autoImplicit false

/-- The values of one use of a template. -/
structure Bindings where
  get? : Placeholder → Option String

namespace Bindings

def empty : Bindings where
  get? _ := none

/-- Give `placeholder` a value, in place of any it had. -/
def bind (bindings : Bindings) (placeholder : Placeholder) (value : String) : Bindings where
  get? other := if other = placeholder then some value else bindings.get? other

/-- Bind from first to last. -/
def ofList (entries : List (Placeholder × String)) : Bindings :=
  entries.foldl (fun bindings entry => bindings.bind entry.1 entry.2) empty

@[simp] theorem get?_empty (placeholder : Placeholder) : empty.get? placeholder = none := rfl

theorem get?_bind (bindings : Bindings) (placeholder other : Placeholder) (value : String) :
    (bindings.bind placeholder value).get? other =
      if other = placeholder then some value else bindings.get? other := rfl

@[simp] theorem get?_bind_self (bindings : Bindings) (placeholder : Placeholder)
    (value : String) : (bindings.bind placeholder value).get? placeholder = some value := by
  simp [get?_bind]

theorem get?_bind_of_ne (bindings : Bindings) {placeholder other : Placeholder}
    (value : String) (ne : other ≠ placeholder) :
    (bindings.bind placeholder value).get? other = bindings.get? other := by
  simp [get?_bind, ne]

end Bindings

end ListOps
