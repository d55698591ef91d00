/-
# ListOps.Proofs.SourceFile.Tokens -- no token is left in a generated file

Filling in replaces the tokens of a body, but it may put new ones together: `<<TYPE>>`
becomes `<T>`.  In the catalogue this cannot happen.  A plain text holds no `<` in front
of a capital or at its end, and values bring in no `<` of their own if the names and
paths they are made of have none.  A value may hold capitals and `>` though, so it is not
enough that the pieces of a text are free of tokens one by one.

`Inert` texts are those that can be put in front of any token-free text without making a
token.  They can be put one behind the other, so all of a generated file is inert: its
heading (`SourceFile.inert_heading`) and what is filled in (`Code.Woven.inert_fill`).

A text without tokens is one that, as the body of a template, is rendered as it stands
whatever the values are: `hasNoToken_iff_rendersItself`.
-/
import ListOps.Proofs.SourceFile.Imports
import ListOps.Proofs.Template.Fault

namespace ListOps

set_option autoImplicit false

open Segment

/-! ## Texts that open no token -/

/-- No token begins in `cs`, whatever token-free text stands behind it. -/
def Inert (cs : List Char) : Prop :=
  ∀ behind, TokenFree behind → TokenFree (cs ++ behind)

namespace Inert

variable {cs cs' : List Char}

theorem nil : Inert [] :=
  fun _ free => free

theorem append (first : Inert cs) (second : Inert cs') : Inert (cs ++ cs') := by
  intro behind free
  rw [List.append_assoc]
  exact first _ (second behind free)

theorem flatMap {α : Type} {entries : List α} {text : α → List Char}
    (each : ∀ entry ∈ entries, Inert (text entry)) : Inert (entries.flatMap text) := by
  induction entries with
  | nil => exact nil
  | cons entry rest ih =>
    rw [List.forall_mem_cons] at each
    exact append each.1 (ih each.2)

theorem tokenFree (inert : Inert cs) : TokenFree cs := by
  have alone := inert [] tokenFree_nil
  rwa [List.append_nil] at alone

theorem of_isPlain (plain : isPlain cs = true) : Inert cs :=
  fun _ free => tokenFree_append_of_isPlain plain free

theorem of_not_mem (absent : '<' ∉ cs) : Inert cs :=
  fun _ free => tokenFree_append_of_not_mem absent free

end Inert

/-! ## Filled-in texts -/

/-- Around a line stand tabs and a line feed. -/
theorem Line.inert_print (line : Line) {cs : List Char} (inert : Inert cs) :
    Inert (line.indent ++ (cs ++ ['\n'])) := by
  have indent : Inert line.indent := by
    refine .of_not_mem ?_
    unfold Line.indent
    split <;> simp [List.mem_replicate]
  have ending : Inert ['\n'] := .of_not_mem (by decide)
  exact indent.append (inert.append ending)

section

variable {allowed : List Placeholder} {value : Placeholder → String}
  (values : ∀ placeholder, '<' ∉ (value placeholder).toList)

include values

/-- Woven texts are inert once values without a bracket are filled in. -/
theorem Woven.inert_fill {s : String} (woven : Woven allowed s) : Inert (fill value s.toList) := by
  induction woven with
  | @plain cs plain =>
    have filled := fill_append_of_isPlain value plain []
    rw [List.append_nil, fill_of_tokenFree value tokenFree_nil, List.append_nil] at filled
    rw [String.toList_ofList, filled]
    exact .of_isPlain plain
  | @token placeholder inside =>
    rw [fill_token]
    exact .of_not_mem (values placeholder)
  | append first second ihFirst ihSecond =>
    rw [String.toList_append, fill, first.collect_append]
    exact ihFirst.append ihSecond

theorem Code.Woven.inert_fill {code : Code} (woven : Code.Woven allowed code) :
    Inert (fill value code.text.toList) := by
  rw [fill_text]
  exact .flatMap fun line member => line.inert_print ((woven line member).inert_fill values)

end

/-- So are the texts of a whole family. -/
theorem TemplateUse.inert_text_every {allowed : List Placeholder} {operations : List Operation}
    {family : Family} {bindings : List Bindings}
    (woven : ∀ operation ∈ operations, Code.Woven allowed operation.code)
    (values : ∀ use ∈ every (operations.map (Operation.template family)) bindings,
      ∀ placeholder, '<' ∉ (use.bindings.value placeholder).toList) :
    Inert (text (every (operations.map (Operation.template family)) bindings)).toList := by
  rw [text, String.toList_ofList]
  refine .flatMap fun use member => ?_
  have closed := values use member
  obtain ⟨operation, offered, values_, -, rfl⟩ := exists_operation member
  exact (woven operation offered).inert_fill closed

/-! ## Generated files -/

theorem SourceFile.inert_heading {package : String} {imports : List String}
    (named : '<' ∉ package.toList) (paths : ∀ path ∈ imports, '<' ∉ path.toList) :
    Inert (heading package imports).toList := by
  have lines : ∀ line ∈ headingCode package imports, '<' ∉ line.text.toList := by
    intro line member
    simp only [headingCode, importLine, Code.line, Code.blank, List.mem_append, List.mem_flatMap,
      List.mem_singleton] at member
    rcases member with ((rfl | rfl) | ⟨path, given, rfl⟩) | rfl
    · decide
    · simp [String.toList_append, named]
    · simp [String.toList_append, paths path given]
    · decide
  have written := Code.toList_text (headingCode package imports)
  have spelled : heading package imports = Code.text (headingCode package imports) := rfl
  rw [spelled, written]
  exact .flatMap fun line member => line.inert_print (.of_not_mem (lines line member))

/-- The parts of a file are inert, and so is the whole. -/
theorem Request.tokenFree_generatedText {request : Request} (valid : request.validate = .ok ())
    (types : ∀ type ∈ request.declaredTypes, '<' ∉ type.name.toList)
    (imports : ∀ path ∈ request.imports, '<' ∉ (Text.trim path).toList) :
    TokenFree request.generatedText.toList := by
  have package : '<' ∉ request.declarations.package.toList :=
    not_mem_package valid (by decide +kernel)
  have written : ∀ type ∈ request.declaredTypes,
      '<' ∉ type.valueType.toList ∧ '<' ∉ type.suffix.toList := by
    intro type declared
    refine DeclaredType.absent declared (fun listed => ?_) (by decide) (types type declared)
    exact absurd (Scalar.mem_listing listed) (by decide)
  have heading : Inert (SourceFile.heading request.declarations.package
      (request.ownImports ++ Text.distinct request.imports)).toList :=
    SourceFile.inert_heading package fun path member =>
      not_mem_of_mem_imports (by decide) imports member
  have single : Inert (TemplateUse.text request.declarations.singleUses).toList :=
    TemplateUse.inert_text_every Catalogue.woven_single fun use member =>
      not_mem_value_of_mem_singleUses package types member
  have conversions : Inert (TemplateUse.text request.declarations.conversionUses).toList :=
    TemplateUse.inert_text_every Catalogue.woven_conversion fun use member =>
      not_mem_value_of_mem_conversionUses written member
  have combinations : Inert (TemplateUse.text request.declarations.combinationUses).toList :=
    TemplateUse.inert_text_every Catalogue.woven_combination fun use member =>
      not_mem_value_of_mem_combinationUses written member
  have blank : Inert "\n".toList := .of_not_mem (by decide)
  have whole := (((heading.append single).append blank).append conversions).append
    (blank.append combinations)
  refine Inert.tokenFree ?_
  simpa [generatedText, ownImports] using whole

/-! ## Texts as templates -/

/-- As the body of a template of any family, the text checks and is rendered as it
stands, whatever values are given. -/
def RendersItself (text : String) : Prop :=
  ∀ (name : String) (family : Family), Template.check ⟨name, family, text⟩ = .ok () ∧
    ∀ bindings, Template.render ⟨name, family, text⟩ bindings = .ok text

/-- A token would need a value, and there may be none. -/
theorem hasNoToken_iff_rendersItself {text : String} : HasNoToken text ↔ RendersItself text := by
  constructor
  · intro none_ name family
    have free := hasNoToken_iff.mp none_
    have rendered (bindings : Bindings) :
        Template.render ⟨name, family, text⟩ bindings = .ok text := by
      have bound : Template.Bound ⟨name, family, text⟩ bindings bindings.value := by
        intro token member
        rw [tokenNames_of_tokenFree free] at member
        exact absurd member List.not_mem_nil
      rw [render_eq_fill _ bound, fill_of_tokenFree _ free, String.ofList_toList]
    exact ⟨check_ok_of_render (rendered .empty), rendered⟩
  · intro renders token offset stands
    have unbound (placeholder : Placeholder) :
        Bindings.empty.get? placeholder = none := rfl
    have fails : ∃ error, Template.render ⟨"", .single, text⟩ .empty = .error error := by
      refine (render_fails_iff _ _).mpr ⟨token, offset, stands, exists_tokenFault_iff.mpr ?_⟩
      by_cases known : ∃ placeholder : Placeholder, placeholder.name = token
      · obtain ⟨placeholder, named⟩ := known
        exact .inr (.inr ⟨placeholder, named, unbound placeholder⟩)
      · exact .inl fun placeholder named => known ⟨placeholder, named⟩
    obtain ⟨error, failed⟩ := fails
    rw [(renders "" .single).2 .empty] at failed
    cases failed

/-- **No token is left in a generated file.**  A text without tokens is one that is
rendered as it stands by any template it is the body of, and whatever a request holds, if
no declared type and no import holds a `<`, then the file that is generated is such a
text. -/
theorem Request.generate_leaves_no_token :
    (∀ text, HasNoToken text ↔ RendersItself text) ∧
    ∀ request : Request, request.validate = .ok () →
      (∀ type ∈ request.declaredTypes, '<' ∉ type.name.toList) →
      (∀ path ∈ request.imports, '<' ∉ (Text.trim path).toList) →
      ∃ file, request.generate = .ok file ∧ HasNoToken file.text ∧ RendersItself file.text := by
  refine ⟨fun text => hasNoToken_iff_rendersItself, fun request valid types imports => ?_⟩
  have none_ : HasNoToken request.generatedText :=
    hasNoToken_iff.mpr (tokenFree_generatedText valid types imports)
  exact ⟨⟨request.generatedText⟩, by rw [generate_eq, valid], none_,
    hasNoToken_iff_rendersItself.mp none_⟩

/-- Names and paths may hold capitals and closing brackets. -/
theorem Request.generate_leaves_no_token_closing :
    let request : Request := ⟨"p", ["TYPE>", "a.B>", "int"], [" FTYPE>"], .exact⟩
    (∀ text, HasNoToken text ↔ RendersItself text) ∧
    request.validate = .ok () ∧
    (∀ type ∈ request.declaredTypes, '<' ∉ type.name.toList) ∧
    (∀ path ∈ request.imports, '<' ∉ (Text.trim path).toList) ∧
    ∃ file, request.generate = .ok file ∧ HasNoToken file.text ∧ RendersItself file.text := by
  intro request
  obtain ⟨renders, generates⟩ := generate_leaves_no_token
  have valid : request.validate = .ok () :=
    Request.validate_eq_ok _ (by decide) (by decide)
  have types : ∀ type ∈ request.declaredTypes, '<' ∉ type.name.toList := by decide
  have imports : ∀ path ∈ request.imports, '<' ∉ (Text.trim path).toList := by decide
  exact ⟨renders, valid, types, imports, generates request valid types imports⟩

end ListOps
