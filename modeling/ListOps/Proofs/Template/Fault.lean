/-
# ListOps.Proofs.Template.Fault -- which fault of a template is reported

A token may be at fault in three ways.  Two are the template's own
(`OwnFault`): no placeholder has the token's name, or the placeholder is not one
of the template's family.  The third depends on the values: the placeholder has
none.  `TokenFault` puts the own faults first; of each token it names at most
one fault.

`FirstFault` says what a report has to be: a token that stands in the body, its
fault, its place, the template's name, and no faulty token in front of it.
Checking reports the first own fault (`check_eq_error_iff`), rendering the first
fault of any kind (`render_eq_error_iff`).  Everything else follows from how the
two kinds of fault lie: an own fault is a fault, and an unbound token has no own
fault.
-/
import ListOps.Proofs.Template.Token
import ListOps.Proofs.Traversal
import ListOps.Template

namespace ListOps

set_option autoImplicit false

/-! ## The faults of a token -/

/-- What is wrong with a token whatever the values are. -/
inductive OwnFault (family : Family) (name : String) : TemplateFault → Prop
  | unknown (foreign : ∀ placeholder : Placeholder, placeholder.name ≠ name) :
      OwnFault family name (.unknown name)
  | outOfSchema {placeholder : Placeholder} (named : placeholder.name = name)
      (outside : placeholder ∉ family.schema) :
      OwnFault family name (.outOfSchema placeholder family)

/-- What is wrong with a token: first what is wrong with it anyway, and then
that it has no value. -/
inductive TokenFault (family : Family) (bindings : Bindings) (name : String) :
    TemplateFault → Prop
  | own {fault : TemplateFault} (fault_ : OwnFault family name fault) :
      TokenFault family bindings name fault
  | unbound {placeholder : Placeholder} (named : placeholder.name = name)
      (inside : placeholder ∈ family.schema) (none_ : bindings.get? placeholder = none) :
      TokenFault family bindings name (.unbound placeholder)

theorem name_injective {placeholder placeholder' : Placeholder}
    (same : placeholder.name = placeholder'.name) : placeholder = placeholder' := by
  have found := Placeholder.ofName?_name placeholder
  rw [same, Placeholder.ofName?_name] at found
  exact (Option.some.inj found).symm

theorem ofName?_eq_none_iff {name : String} :
    Placeholder.ofName? name = none ↔ ∀ placeholder : Placeholder, placeholder.name ≠ name := by
  simp [Placeholder.ofName?, Placeholder.mem_all]

/-- A token of the family's has no own fault. -/
theorem not_ownFault_of_inside {family : Family} {placeholder : Placeholder}
    (inside : placeholder ∈ family.schema) (fault : TemplateFault) :
    ¬ OwnFault family placeholder.name fault := by
  rintro (foreign | ⟨named, outside⟩)
  · exact foreign placeholder rfl
  · exact outside (name_injective named ▸ inside)

/-- A token is at fault if no placeholder has its name, if its placeholder is
not one of the family, or if its placeholder has no value. -/
theorem exists_tokenFault_iff {family : Family} {bindings : Bindings} {name : String} :
    (∃ fault, TokenFault family bindings name fault) ↔
      (∀ placeholder : Placeholder, placeholder.name ≠ name) ∨
      (∃ placeholder : Placeholder, placeholder.name = name ∧ placeholder ∉ family.schema) ∨
      ∃ placeholder : Placeholder, placeholder.name = name ∧ bindings.get? placeholder = none := by
  constructor
  · rintro ⟨_, (foreign | ⟨named, outside⟩) | ⟨named, inside, none_⟩⟩
    · exact .inl foreign
    · exact .inr (.inl ⟨_, named, outside⟩)
    · exact .inr (.inr ⟨_, named, none_⟩)
  · rintro (foreign | ⟨placeholder, named, outside⟩ | ⟨placeholder, named, none_⟩)
    · exact ⟨_, .own (.unknown foreign)⟩
    · exact ⟨_, .own (.outOfSchema named outside)⟩
    · by_cases inside : placeholder ∈ family.schema
      · exact ⟨_, .unbound named inside none_⟩
      · exact ⟨_, .own (.outOfSchema named inside)⟩

/-! ## Reports -/

/-- `error` reports the first token of the template that `faulty` says something
about, and reports what it says. -/
def FirstFault (faulty : String → TemplateFault → Prop) (template : Template)
    (error : TemplateError) : Prop :=
  error.template = template.name ∧
    (∃ name, TokenAt template.body name error.offset ∧ faulty name error.fault) ∧
    ∀ name offset fault, TokenAt template.body name offset → faulty name fault →
      error.offset ≤ offset

section

variable {β : Type} {template : Template} {faulty : String → TemplateFault → Prop}
  {run : Segment → Except TemplateError β}

/-- Texts never fail, and a token fails with its fault, if it has one. -/
structure Reports (template : Template) (faulty : String → TemplateFault → Prop)
    (run : Segment → Except TemplateError β) : Prop where
  text : ∀ text, ∃ result, run (.text text) = .ok result
  token : ∀ name offset error, run (.token name offset) = .error error ↔
    ∃ fault, faulty name fault ∧ error = ⟨template.name, offset, fault⟩

/-- The first segment that fails is the first faulty token. -/
theorem firstError_iff_firstFault (reports : Reports template faulty run)
    (error : TemplateError) :
    FirstError run template.segments error ↔ FirstFault faulty template error := by
  have ascend := Cursor.offsets_ascend template.body.toList 0
  constructor
  · rintro ⟨before, segment, behind, split, fine, failed⟩
    cases segment with
    | text run_ =>
      obtain ⟨result, done⟩ := reports.text run_
      rw [done] at failed
      cases failed
    | token name offset =>
      obtain ⟨fault, wrong, rfl⟩ := (reports.token name offset error).mp failed
      have stands (token : Segment) : token ∈ before ++ .token name offset :: behind →
          token ∈ Segment.ofBody template.body := by
        rw [← split]
        exact id
      refine ⟨rfl, ⟨name, (tokenAt_iff _ _ _).mpr (stands _ (by simp)), wrong⟩, ?_⟩
      intro name' offset' fault' stands' wrong'
      have member := (tokenAt_iff _ _ _).mp stands'
      change _ ∈ template.segments at member
      rw [split, List.mem_append, List.mem_cons] at member
      rcases member with earlier | same | later
      · obtain ⟨result, done⟩ := fine _ earlier
        rw [(reports.token name' offset' _).mpr ⟨fault', wrong', rfl⟩] at done
        cases done
      · cases same
        exact Nat.le_refl _
      · change template.segments.Pairwise _ at ascend
        rw [split, List.pairwise_append, List.pairwise_cons] at ascend
        exact Nat.le_of_lt (ascend.2.1.1 _ later _ _ _ _ rfl rfl)
  · rintro ⟨named, ⟨name, stands, wrong⟩, first⟩
    obtain ⟨before, behind, split⟩ := List.append_of_mem ((tokenAt_iff _ _ _).mp stands)
    refine ⟨before, .token name error.offset, behind, split, fun earlier member => ?_,
      (reports.token _ _ _).mpr ⟨error.fault, wrong, by rw [← named]⟩⟩
    cases earlier with
    | text run_ => exact reports.text run_
    | token name' offset' =>
      cases done : run (.token name' offset') with
      | ok result => exact ⟨result, rfl⟩
      | error error' =>
        obtain ⟨fault', wrong', -⟩ := (reports.token _ _ _).mp done
        have inside : Segment.token name' offset' ∈ Segment.ofBody template.body := by
          rw [split]
          simp [member]
        have late := first name' offset' fault' ((tokenAt_iff _ _ _).mpr inside) wrong'
        change (Segment.ofBody template.body).Pairwise _ at ascend
        rw [split, List.pairwise_append] at ascend
        have early := ascend.2.2 _ member _ (List.mem_cons_self ..) _ _ _ _ rfl rfl
        omega

/-- A first faulty token is there if there is any. -/
theorem exists_firstFault_iff (reports : Reports template faulty run) :
    (∃ error, FirstFault faulty template error) ↔
      ∃ name offset, TokenAt template.body name offset ∧ ∃ fault, faulty name fault := by
  simp only [← firstError_iff_firstFault reports, exists_firstError_iff]
  constructor
  · rintro ⟨segment, member, error, failed⟩
    cases segment with
    | text run_ =>
      obtain ⟨result, done⟩ := reports.text run_
      rw [done] at failed
      cases failed
    | token name offset =>
      obtain ⟨fault, wrong, -⟩ := (reports.token name offset error).mp failed
      exact ⟨name, offset, (tokenAt_iff _ _ _).mpr member, fault, wrong⟩
  · rintro ⟨name, offset, stands, fault, wrong⟩
    exact ⟨_, (tokenAt_iff _ _ _).mp stands, _, (reports.token _ _ _).mpr ⟨fault, wrong, rfl⟩⟩

end

/-! ## Checking and rendering -/

theorem resolve_eq_error_iff (template : Template) (name : String) (offset : Nat)
    (error : TemplateError) :
    template.resolve name offset = .error error ↔
      ∃ fault, OwnFault template.family name fault ∧ error = ⟨template.name, offset, fault⟩ := by
  unfold Template.resolve
  cases found : Placeholder.ofName? name with
  | none =>
    have foreign := ofName?_eq_none_iff.mp found
    simp only [Template.fail, Except.error.injEq]
    constructor
    · rintro rfl
      exact ⟨_, .unknown foreign, rfl⟩
    · rintro ⟨_, _ | ⟨named, -⟩, rfl⟩
      · rfl
      · exact absurd named (foreign _)
  | some placeholder =>
    have named := Placeholder.name_of_ofName? found
    by_cases inside : placeholder ∈ template.family.schema
    · subst named
      simp [Family.allows, inside, not_ownFault_of_inside inside]
    · simp only [Family.allows, List.contains_eq_mem, inside, decide_false, Bool.false_eq_true,
        if_false, Template.fail, Except.error.injEq]
      constructor
      · rintro rfl
        exact ⟨_, .outOfSchema named inside, rfl⟩
      · rintro ⟨_, foreign | ⟨named', -⟩, rfl⟩
        · exact absurd named (foreign placeholder)
        · rw [name_injective (named.trans named'.symm)]

theorem resolve_eq_ok_iff {template : Template} {name : String} {offset : Nat}
    {placeholder : Placeholder} :
    template.resolve name offset = .ok placeholder ↔
      placeholder.name = name ∧ placeholder ∈ template.family.schema := by
  unfold Template.resolve
  constructor
  · intro resolved
    split at resolved
    · cases resolved
    · rename_i found
      split at resolved
      · rename_i allowed
        cases resolved
        exact ⟨Placeholder.name_of_ofName? found, by simpa [Family.allows] using allowed⟩
      · cases resolved
  · rintro ⟨rfl, inside⟩
    simp [Placeholder.ofName?_name, Family.allows, inside]

theorem reports_checkSegment (template : Template) :
    Reports template (OwnFault template.family) template.checkSegment where
  text _ := ⟨(), rfl⟩
  token name offset error := by
    rw [← resolve_eq_error_iff, Template.checkSegment]
    cases template.resolve name offset <;> simp [bind, Except.bind, pure, Except.pure]

theorem reports_renderSegment (template : Template) (bindings : Bindings) :
    Reports template (TokenFault template.family bindings) (template.renderSegment bindings) where
  text run := ⟨run, rfl⟩
  token name offset error := by
    rw [Template.renderSegment]
    cases resolved : template.resolve name offset with
    | error own =>
      obtain ⟨fault, wrong, rfl⟩ := (resolve_eq_error_iff ..).mp resolved
      simp only [bind, Except.bind, Except.error.injEq]
      constructor
      · rintro rfl
        exact ⟨fault, .own wrong, rfl⟩
      · rintro ⟨fault', wrong' | ⟨named, inside, -⟩, rfl⟩
        · have again := (resolve_eq_error_iff template name offset _).mpr ⟨fault', wrong', rfl⟩
          rw [resolved] at again
          exact Except.error.inj again
        · exact absurd (named ▸ wrong) (not_ownFault_of_inside inside fault)
    | ok placeholder =>
      obtain ⟨rfl, inside⟩ := resolve_eq_ok_iff.mp resolved
      cases given : bindings.get? placeholder with
      | some value =>
        simp only [bind, Except.bind, reduceCtorEq, given, false_iff]
        rintro ⟨fault, wrong | ⟨named, -, none_⟩, -⟩
        · exact not_ownFault_of_inside inside fault wrong
        · rw [name_injective named, given] at none_
          cases none_
      | none =>
        simp only [bind, Except.bind, given, Template.fail, Except.error.injEq]
        constructor
        · rintro rfl
          exact ⟨_, .unbound rfl inside given, rfl⟩
        · rintro ⟨fault, wrong | ⟨named, -, -⟩, rfl⟩
          · exact absurd wrong (not_ownFault_of_inside inside fault)
          · rw [name_injective named]

theorem check_eq_error_iff (template : Template) (error : TemplateError) :
    template.check = .error error ↔ FirstFault (OwnFault template.family) template error := by
  rw [Template.check, forM_eq_error_iff, firstError_iff_firstFault (reports_checkSegment template)]

theorem render_eq_error_iff (template : Template) (bindings : Bindings) (error : TemplateError) :
    template.render bindings = .error error ↔
      FirstFault (TokenFault template.family bindings) template error := by
  rw [← firstError_iff_firstFault (reports_renderSegment template bindings), ← mapM_eq_error_iff,
    Template.render]
  cases template.segments.mapM (template.renderSegment bindings) <;>
    simp [bind, Except.bind, pure, Except.pure]

theorem check_eq_ok_iff (template : Template) :
    template.check = .ok () ↔
      ∀ name offset, TokenAt template.body name offset → ∀ fault,
        ¬ OwnFault template.family name fault := by
  have failing := exists_firstFault_iff (reports_checkSegment template)
  simp only [← check_eq_error_iff] at failing
  cases done : template.check with
  | error error =>
    simp only [reduceCtorEq, false_iff]
    intro fine
    obtain ⟨name, offset, stands, fault, wrong⟩ := failing.mp ⟨error, done⟩
    exact fine name offset stands fault wrong
  | ok =>
    simp only [true_iff]
    intro name offset stands fault wrong
    obtain ⟨error, failed⟩ := failing.mpr ⟨name, offset, stands, fault, wrong⟩
    rw [done] at failed
    cases failed

theorem render_fails_iff (template : Template) (bindings : Bindings) :
    (∃ error, template.render bindings = .error error) ↔
      ∃ name offset, TokenAt template.body name offset ∧
        ∃ fault, TokenFault template.family bindings name fault := by
  simp only [render_eq_error_iff, exists_firstFault_iff (reports_renderSegment template bindings)]

/-- Where every placeholder of the family has a value, only own faults are left. -/
theorem render_ok_of_check {template : Template} (checked : template.check = .ok ())
    {bindings : Bindings}
    (covers : ∀ placeholder ∈ template.family.schema, bindings.get? placeholder ≠ none) :
    ∃ text, template.render bindings = .ok text := by
  cases done : template.render bindings with
  | ok text => exact ⟨text, rfl⟩
  | error error =>
    obtain ⟨name, offset, stands, fault, wrong | ⟨-, inside, none_⟩⟩ :=
      (render_fails_iff template bindings).mp ⟨error, done⟩
    · exact absurd wrong ((check_eq_ok_iff template).mp checked name offset stands fault)
    · exact absurd none_ (covers _ inside)

theorem check_ok_of_render {template : Template} {bindings : Bindings} {text : String}
    (rendered : template.render bindings = .ok text) : template.check = .ok () := by
  rw [check_eq_ok_iff]
  intro name offset stands fault wrong
  obtain ⟨error, failed⟩ :=
    (render_fails_iff template bindings).mpr ⟨name, offset, stands, fault, .own wrong⟩
  rw [rendered] at failed
  cases failed

/-- A first fault of all that is an own one is the first own one. -/
theorem check_error_of_render_own {template : Template} {bindings : Bindings}
    {error : TemplateError} (failed : template.render bindings = .error error)
    (own : ∀ placeholder, error.fault ≠ .unbound placeholder) : template.check = .error error := by
  obtain ⟨named, ⟨name, stands, wrong⟩, first⟩ := (render_eq_error_iff ..).mp failed
  refine (check_eq_error_iff ..).mpr ⟨named, ⟨name, stands, ?_⟩,
    fun name' offset' fault' stands' wrong' => first name' offset' fault' stands' (.own wrong')⟩
  generalize error.fault = fault at wrong own
  cases wrong with
  | own wrong => exact wrong
  | unbound => exact absurd rfl (own _)

/-- What stands in the way of reporting an own fault is an unbound token in
front of it. -/
theorem render_error_of_check {template : Template} (bindings : Bindings) {error : TemplateError}
    (failed : template.check = .error error) :
    template.render bindings = .error error ∨
      ∃ earlier placeholder, template.render bindings = .error earlier ∧
        earlier.fault = .unbound placeholder ∧ earlier.offset < error.offset := by
  obtain ⟨-, ⟨name, stands, wrong⟩, -⟩ := (check_eq_error_iff ..).mp failed
  obtain ⟨earlier, failed'⟩ :=
    (render_fails_iff template bindings).mpr ⟨name, error.offset, stands, _, .own wrong⟩
  obtain ⟨-, ⟨name', stands', wrong'⟩, first⟩ := (render_eq_error_iff ..).mp failed'
  by_cases unbound : ∃ placeholder, earlier.fault = .unbound placeholder
  · obtain ⟨placeholder, same⟩ := unbound
    refine .inr ⟨earlier, placeholder, failed', same, ?_⟩
    have ordered := first name error.offset _ stands (.own wrong)
    -- at one place there is one token, and it has one kind of fault
    refine Nat.lt_of_le_of_ne ordered fun together => ?_
    rw [same] at wrong'
    rw [together] at stands'
    obtain rfl := tokenAt_unique stands stands'
    rcases wrong' with own | ⟨rfl, inside, -⟩
    · cases own
    · exact not_ownFault_of_inside inside _ wrong
  · have checked := check_error_of_render_own failed' fun placeholder same =>
      unbound ⟨placeholder, same⟩
    rw [failed] at checked
    cases checked
    exact .inl failed'

/-- **Checking decides rendering, and both report the first fault.**  A template
passes the check exactly if some values render it, and exactly if all values for
the family's placeholders do.  Rendering fails exactly at the first faulty
token, and it reports another fault than the check does only for an unbound
token in front. -/
theorem check_iff_render_and_first_fault (template : Template) :
    (template.check = .ok () ↔ ∃ bindings text, template.render bindings = .ok text) ∧
    (template.check = .ok () ↔ ∀ bindings : Bindings,
      (∀ placeholder ∈ template.family.schema, bindings.get? placeholder ≠ none) →
        ∃ text, template.render bindings = .ok text) ∧
    ∀ bindings : Bindings,
      ((∃ error, template.render bindings = .error error) ↔
        ∃ name offset, TokenAt template.body name offset ∧
          ((∀ placeholder : Placeholder, placeholder.name ≠ name) ∨
          (∃ placeholder : Placeholder,
            placeholder.name = name ∧ placeholder ∉ template.family.schema) ∨
          ∃ placeholder : Placeholder,
            placeholder.name = name ∧ bindings.get? placeholder = none)) ∧
      (∀ error, template.render bindings = .error error ↔
        FirstFault (TokenFault template.family bindings) template error) ∧
      (∀ error, template.render bindings = .error error →
        (∀ placeholder, error.fault ≠ .unbound placeholder) → template.check = .error error) ∧
      ∀ error, template.check = .error error →
        template.render bindings = .error error ∨
          ∃ earlier placeholder, template.render bindings = .error earlier ∧
            earlier.fault = .unbound placeholder ∧ earlier.offset < error.offset := by
  let total : Bindings := ⟨fun _ => some ""⟩
  refine ⟨⟨fun checked => ?_, ?_⟩, ⟨fun checked bindings => render_ok_of_check checked, ?_⟩, ?_⟩
  · exact ⟨total, render_ok_of_check checked (by simp [total])⟩
  · rintro ⟨bindings, text, rendered⟩
    exact check_ok_of_render rendered
  · intro renders
    obtain ⟨text, rendered⟩ := renders total (by simp [total])
    exact check_ok_of_render rendered
  · intro bindings
    refine ⟨?_, render_eq_error_iff template bindings, fun error => check_error_of_render_own,
      fun error => render_error_of_check bindings⟩
    simp only [render_fails_iff, exists_tokenFault_iff]

end ListOps
