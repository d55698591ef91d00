/-
# ListOps.Proofs.Uses -- every use of a template has its values

The catalogue's templates are used with values for all that they leave open,
whatever the values are.  So rendering the uses never fails, and it gives their
texts one after the other: `Declarations.single_eq_ok` and its like.
-/
import ListOps.Declarations
import ListOps.Proofs.Catalogue.Weave
import ListOps.ScalarOperations

namespace ListOps

set_option autoImplicit false

namespace TemplateUse

/-- The template with every token replaced by its value. -/
def filled (use : TemplateUse) : List Char :=
  fill use.bindings.value use.template.body.toList

/-- The template may use all of its tokens, and each has a value. -/
def Complete (use : TemplateUse) : Prop :=
  use.template.Bound use.bindings use.bindings.value

/-- The texts of complete uses, one after the other. -/
def text (uses : List TemplateUse) : String :=
  String.ofList (uses.flatMap filled)

theorem render_eq_ok {uses : List TemplateUse} (complete : ∀ use ∈ uses, use.Complete) :
    render uses = .ok (text uses) := by
  have rendered : ∀ use ∈ uses,
      use.template.render use.bindings = .ok (String.ofList use.filled) :=
    fun use member => render_eq_fill _ (complete use member)
  rw [render, mapM_eq_ok rendered]
  refine congrArg Except.ok (String.toList_inj.mp ?_)
  simp [text, List.flatMap_map]

theorem complete_every {templates : List Template} {bindings : List Bindings}
    (bound : ∀ values ∈ bindings, ∀ template ∈ templates, template.Bound values values.value) :
    ∀ use ∈ every templates bindings, use.Complete := by
  intro use member
  obtain ⟨values, given, inside⟩ := List.mem_flatMap.mp member
  obtain ⟨template, used, rfl⟩ := List.mem_map.mp inside
  exact bound values given template used

theorem filled_every (templates : List Template) (bindings : List Bindings) :
    (every templates bindings).flatMap filled =
      bindings.flatMap fun values => templates.flatMap fun template =>
        fill values.value template.body.toList := by
  simp [every, List.flatMap_assoc, List.flatMap_map, filled]

end TemplateUse

open TemplateUse

/-- Values for the element type and the suffix are all that single operations
need. -/
theorem bound_single {bindings : Bindings}
    (given : ∀ placeholder ∈ Catalogue.singlePlaceholders,
      (bindings.get? placeholder).isSome = true) :
    ∀ template ∈ Catalogue.single, template.Bound bindings bindings.value :=
  bound_of_mem_operations Catalogue.woven_single (by decide) given

/-! ## Declared types -/

namespace Declarations

variable (declarations : Declarations)

theorem complete_singleUses : ∀ use ∈ declarations.singleUses, use.Complete := by
  refine complete_every fun values member => ?_
  obtain ⟨⟨type, carried⟩, -, rfl⟩ := List.mem_map.mp member
  apply bound_single
  simp [Catalogue.singlePlaceholders, singleBindings, Bindings.ofList, Bindings.get?_bind]

theorem complete_conversionUses : ∀ use ∈ declarations.conversionUses, use.Complete := by
  refine complete_every fun values member => ?_
  obtain ⟨⟨input, output⟩, -, rfl⟩ := List.mem_map.mp member
  apply bound_of_mem_operations Catalogue.woven_conversion fun _ inside => inside
  simp [Family.schema, conversionBindings, Bindings.ofList, Bindings.get?_bind]

theorem complete_combinationUses : ∀ use ∈ declarations.combinationUses, use.Complete := by
  refine complete_every fun values member => ?_
  obtain ⟨⟨key, value⟩, -, rfl⟩ := List.mem_map.mp member
  apply bound_of_mem_operations Catalogue.woven_combination fun _ inside => inside
  simp [Family.schema, combinationBindings, Bindings.ofList, Bindings.get?_bind]

theorem single_eq_ok : declarations.single = .ok (text declarations.singleUses) :=
  render_eq_ok declarations.complete_singleUses

theorem conversions_eq_ok : declarations.conversions = .ok (text declarations.conversionUses) :=
  render_eq_ok declarations.complete_conversionUses

theorem combinations_eq_ok : declarations.combinations = .ok (text declarations.combinationUses) :=
  render_eq_ok declarations.complete_combinationUses

end Declarations

/-! ## Scalars -/

namespace Scalar

theorem operations_eq_ok (package : String) :
    operations package =
      .ok (text (every Catalogue.single (all.map (operationBindings package)))) := by
  refine render_eq_ok (complete_every fun values member => ?_)
  obtain ⟨scalar, -, rfl⟩ := List.mem_map.mp member
  apply bound_single
  simp [Catalogue.singlePlaceholders, operationBindings, Bindings.ofList, Bindings.get?_bind]

theorem operationTests_eq_ok : operationTests = .ok (text (all.map testUse)) := by
  refine render_eq_ok fun use member => ?_
  obtain ⟨scalar, -, rfl⟩ := List.mem_map.mp member
  obtain ⟨code, body, woven⟩ := Catalogue.woven_testFor scalar
  have family : (Catalogue.testFor scalar).family = .test := by cases scalar <;> rfl
  refine bound_of_woven body woven (fun placeholder inside => ?_) ?_
  · exact family ▸ inside
  · simp [Family.schema, testUse, Bindings.ofList, Bindings.get?_bind]

end Scalar

end ListOps
