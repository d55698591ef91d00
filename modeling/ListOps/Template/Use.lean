/-
# ListOps.Template.Use -- templates with their values

Generated text is a list of uses of templates, rendered one after the other.
-/
import ListOps.Template

namespace ListOps

set_option autoImplicit false

/-- A template and the values it is rendered with. -/
structure TemplateUse where
  template : Template
  bindings : Bindings

namespace TemplateUse

/-- All templates for the first bindings, then all for the next. -/
def every (templates : List Template) (bindings : List Bindings) : List TemplateUse :=
  bindings.flatMap fun values => templates.map fun template => ⟨template, values⟩

/-- The texts of all uses, one after the other. -/
def render (uses : List TemplateUse) : Except TemplateError String := do
  let texts ← uses.mapM fun use => use.template.render use.bindings
  return String.join texts

end TemplateUse

end ListOps
