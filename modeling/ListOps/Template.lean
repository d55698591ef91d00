/-
# ListOps.Template -- templates and their rendering

Rendering writes each text segment as it stands and each token's value in its
place, once from left to right: a value is never read for tokens again.  A
token may be at fault in three ways, asked for in this order: no placeholder
has its name, the placeholder is not one of the template's family, or it has no
value.  The first two are the template's own and are found by `Template.check`
before any value is known.  The first faulty token is the one reported.
-/
import ListOps.Template.Bindings
import ListOps.Template.Segment

namespace ListOps

set_option autoImplicit false

/-- Why a token cannot be rendered. -/
inductive TemplateFault
  /-- No placeholder has this name. -/
  | unknown (name : String)
  /-- Templates of this family may not use the placeholder. -/
  | outOfSchema (placeholder : Placeholder) (family : Family)
  /-- The placeholder has no value. -/
  | unbound (placeholder : Placeholder)
deriving DecidableEq

namespace TemplateFault

def message : TemplateFault → String
  | unknown name => "unknown placeholder <" ++ name ++ ">"
  | outOfSchema placeholder family =>
      "placeholder <" ++ placeholder.name ++ "> is not allowed in " ++ family.description ++
        " templates"
  | unbound placeholder => "placeholder <" ++ placeholder.name ++ "> has no binding"

end TemplateFault

/-- A fault and the place where it was found. -/
structure TemplateError where
  template : String
  offset : Nat
  fault : TemplateFault
deriving DecidableEq

namespace TemplateError

def message (error : TemplateError) : String :=
  "template `" ++ error.template ++ "` at byte " ++ toString error.offset ++ ": " ++
    error.fault.message

end TemplateError

/-- A text with places left open. -/
structure Template where
  name : String
  family : Family
  body : String
deriving DecidableEq

namespace Template

def segments (template : Template) : List Segment :=
  Segment.ofBody template.body

/-- Report a fault of the token at `offset`. -/
def fail {α : Type} (template : Template) (offset : Nat) (fault : TemplateFault) :
    Except TemplateError α :=
  .error ⟨template.name, offset, fault⟩

/-- The placeholder that a token stands for. -/
def resolve (template : Template) (name : String) (offset : Nat) :
    Except TemplateError Placeholder :=
  match Placeholder.ofName? name with
  | none => template.fail offset (.unknown name)
  | some placeholder =>
      if template.family.allows placeholder then .ok placeholder
      else template.fail offset (.outOfSchema placeholder template.family)

/-- Is this segment one that some values could be given for? -/
def checkSegment (template : Template) : Segment → Except TemplateError Unit
  | .text _ => .ok ()
  | .token name offset => do
      let _ ← template.resolve name offset

/-- Are all tokens ones that templates of this family may use? -/
def check (template : Template) : Except TemplateError Unit :=
  template.segments.forM template.checkSegment

/-- What is written for one segment. -/
def renderSegment (template : Template) (bindings : Bindings) :
    Segment → Except TemplateError String
  | .text run => .ok run
  | .token name offset => do
      let placeholder ← template.resolve name offset
      match bindings.get? placeholder with
      | some value => .ok value
      | none => template.fail offset (.unbound placeholder)

/-- The body with every token replaced by its value. -/
def render (template : Template) (bindings : Bindings) : Except TemplateError String := do
  let pieces ← template.segments.mapM (template.renderSegment bindings)
  return String.join pieces

end Template

end ListOps
