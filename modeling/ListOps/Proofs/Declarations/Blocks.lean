/-
# ListOps.Proofs.Declarations.Blocks -- operations are put together from blocks

All templates of a family are rendered with the same values, for one type or for one
pair of types.  What they give is a block (`singleBlock`, `conversionBlock`,
`combinationBlock`), and what is generated for a list of types is made of blocks, one
after the other (`MadeOf`): `madeOf_single`, `madeOf_conversions`,
`madeOf_combinations`.  A block does not know the list that its types come from, so
what is generated for two lists is compared by the blocks that they ask for.
-/
import ListOps.Proofs.SourceFile.PackageName

namespace ListOps

set_option autoImplicit false

open TemplateUse

/-! ## Texts made of blocks -/

section

variable {α β : Type} {result : Except TemplateError String} {entries : List α}
  {block block' : α → Except TemplateError String}

/-- All blocks succeed, and the result is what they give, one after the other. -/
def MadeOf (result : Except TemplateError String) (block : α → Except TemplateError String)
    (entries : List α) : Prop :=
  ∃ blocks, entries.mapM block = .ok blocks ∧ result = .ok (String.join blocks)

theorem MadeOf.congr (made : MadeOf result block entries)
    (same : ∀ entry ∈ entries, block entry = block' entry) : MadeOf result block' entries := by
  obtain ⟨blocks, done, joined⟩ := made
  exact ⟨blocks, mapM_congr same ▸ done, joined⟩

theorem madeOf_map {block : β → Except TemplateError String} {f : α → β} :
    MadeOf result block (entries.map f) ↔ MadeOf result (fun entry => block (f entry)) entries := by
  rw [MadeOf, List.mapM_map]
  rfl

end

/-- What templates give with the same values, one after the other. -/
def block (templates : List Template) (bindings : Bindings) : Except TemplateError String :=
  String.join <$> templates.mapM fun template => template.render bindings

theorem block_eq_ok {templates : List Template} {bindings : Bindings}
    (bound : ∀ template ∈ templates, template.Bound bindings bindings.value) :
    block templates bindings = .ok (String.ofList (templates.flatMap fun template =>
      fill bindings.value template.body.toList)) := by
  have rendered : ∀ template ∈ templates, template.render bindings =
      .ok (String.ofList (fill bindings.value template.body.toList)) :=
    fun template used => render_eq_fill bindings.value (bound template used)
  rw [block, mapM_eq_ok rendered]
  refine congrArg Except.ok (String.toList_inj.mp ?_)
  simp [List.flatMap_map]

/-- The uses of some templates with many values are made of the blocks with each. -/
theorem madeOf_every {α : Type} {entries : List α} {templates : List Template}
    {bindings : α → Bindings}
    (complete : ∀ use ∈ every templates (entries.map bindings), use.Complete) :
    MadeOf (render (every templates (entries.map bindings)))
      (fun entry => block templates (bindings entry)) entries := by
  have each : ∀ entry ∈ entries, block templates (bindings entry) =
      .ok (String.ofList (templates.flatMap fun template =>
        fill (bindings entry).value template.body.toList)) := by
    refine fun entry member => block_eq_ok fun template used => ?_
    exact complete ⟨template, bindings entry⟩ (List.mem_flatMap.mpr
      ⟨bindings entry, List.mem_map_of_mem member, List.mem_map_of_mem used⟩)
  refine ⟨_, mapM_eq_ok each, ?_⟩
  rw [render_eq_ok complete, text, filled_every]
  refine congrArg Except.ok (String.toList_inj.mp ?_)
  simp [List.flatMap_map]

/-! ## The blocks of declared types -/

namespace Declarations

/-- The operations on lists of one type; no value is given for the package. -/
def singleBlock (element suffix : String) : Except TemplateError String :=
  block Catalogue.single <| .ofList [(.elementType, element), (.nameSuffix, suffix)]

/-- The operations from lists of one type to lists of another. -/
def conversionBlock (input output : DeclaredType) : Except TemplateError String :=
  block Catalogue.conversion <| .ofList [(.inputSuffix, input.suffix),
    (.outputSuffix, output.suffix), (.inputType, input.valueType), (.outputType, output.valueType)]

/-- The operations on maps from one type to another, named by these suffixes. -/
def combinationBlock (suffixes : String × String) (key value : DeclaredType) :
    Except TemplateError String :=
  block Catalogue.combination <| .ofList [(.firstSuffix, suffixes.1),
    (.secondSuffix, suffixes.2), (.firstType, key.valueType), (.secondType, value.valueType)]

variable (declarations : Declarations)

/-- The types that have operations of their own, each with the name carried to it. -/
def singleEntries : List (DeclaredType × String) :=
  (withCarried declarations.package "" declarations.types).filter fun entry => !entry.1.isScalar

def conversionPairs : List (DeclaredType × DeclaredType) :=
  declarations.pairs.filter fun pair => needsConversions pair.1 pair.2

def combinationPairs : List (DeclaredType × DeclaredType) :=
  declarations.pairs.filter fun pair => needsOperations pair.1 pair.2

/-- Operations on one type look at two values only. -/
theorem block_single_congr {bindings bindings' : Bindings}
    (given : ∀ placeholder ∈ Catalogue.singlePlaceholders,
      (bindings.get? placeholder).isSome = true)
    (same : ∀ placeholder ∈ Catalogue.singlePlaceholders,
      bindings.get? placeholder = bindings'.get? placeholder) :
    block Catalogue.single bindings = block Catalogue.single bindings' := by
  have given' : ∀ placeholder ∈ Catalogue.singlePlaceholders,
      (bindings'.get? placeholder).isSome = true :=
    fun placeholder asked => same placeholder asked ▸ given placeholder asked
  rw [block_eq_ok (bound_single given), block_eq_ok (bound_single given')]
  refine congrArg (Except.ok ∘ String.ofList) (List.flatMap_congr fun template used => ?_)
  exact Catalogue.fill_single_congr same used

theorem madeOf_single : MadeOf declarations.single
    (fun entry => singleBlock entry.1.name (Name.unqualified entry.2))
    declarations.singleEntries := by
  refine (madeOf_every declarations.complete_singleUses).congr fun entry _ => ?_
  apply block_single_congr <;>
    simp [Catalogue.singlePlaceholders, singleBindings, Bindings.ofList, Bindings.get?_bind]

theorem madeOf_conversions : MadeOf declarations.conversions
    (fun pair => conversionBlock pair.1 pair.2) declarations.conversionPairs :=
  madeOf_every declarations.complete_conversionUses

theorem madeOf_combinations : MadeOf declarations.combinations (fun pair => combinationBlock
      (combinationSuffixes declarations.package pair.1 pair.2) pair.1 pair.2)
    declarations.combinationPairs :=
  madeOf_every declarations.complete_combinationUses

end Declarations

end ListOps
