/-
# ListOps.Proofs.Catalogue.Weave -- what the templates of the catalogue leave open

Every operation is woven with tokens of its family's placeholders, and single
operations do without the package.  So bindings that give these placeholders a
value cover every operation of the family (`bound_of_mem_operations`), and
likewise the tests (`bound_of_woven`).
-/
import ListOps.Catalogue
import ListOps.Proofs.Template.Weave

namespace ListOps

set_option autoImplicit false

variable {allowed : List Placeholder}

/-! ## Operations -/

namespace Catalogue

/-- What single operations leave open; they never name the package. -/
def singlePlaceholders : List Placeholder :=
  [.elementType, .nameSuffix]

section

open Single

theorem woven_single :
    ∀ operation ∈ Single.all, Code.Woven singlePlaceholders operation.code := by
  simp only [Single.all, Single.map, Single.filter, Single.remove, Single.some, Single.every,
    Single.dropWhile, Single.takeWhile, Single.parallelMap, Single.filterMap, Single.rest,
    Single.reduce, Single.dropLast, byPredicate, shortened, Single.suffix, element, elements,
    Catalogue.map, Catalogue.parallelMap, Catalogue.filterMap, returnIf, noElements, forEach,
    makeResults, Operation.code, Operation.name, Code.block, Code.blockThen, Code.blockElse,
    Code.woven_line_iff, Code.woven_append_iff, Code.woven_inner_iff, List.forall_mem_cons,
    List.not_mem_nil, false_imp_iff, implies_true, and_true, toString]
  repeat' apply And.intro
  all_goals repeat' with_reducible first
    | exact .token (by decide)
    | apply Woven.append
    | exact .plain (by decide)

end

section

open Conversion

theorem woven_conversion :
    ∀ operation ∈ Conversion.all, Code.Woven Family.conversion.schema operation.code := by
  simp only [Conversion.all, Conversion.map, Conversion.parallelMap, Conversion.filterMap,
    Conversion.suffix, input, output, Catalogue.map, Catalogue.parallelMap, Catalogue.filterMap,
    returnIf, noElements, forEach, makeResults, Operation.code, Operation.name, Code.block,
    Code.blockThen, Code.woven_line_iff, Code.woven_append_iff, Code.woven_inner_iff,
    List.forall_mem_cons, List.not_mem_nil, false_imp_iff, implies_true, and_true, toString]
  repeat' apply And.intro
  all_goals repeat' with_reducible first
    | exact .token (by decide)
    | apply Woven.append
    | exact .plain (by decide)

end

section

open Combination

theorem woven_combination :
    ∀ operation ∈ Combination.all, Code.Woven Family.combination.schema operation.code := by
  simp only [Combination.all, merge, zip, copyEntries, mapType, Combination.suffix, key, value,
    Operation.code, Operation.name, Code.block, Code.blockThen, Code.woven_line_iff,
    Code.woven_append_iff, Code.woven_inner_iff, List.forall_mem_cons, List.not_mem_nil,
    false_imp_iff, implies_true, and_true, toString]
  repeat' apply And.intro
  all_goals repeat' with_reducible first
    | exact .token (by decide)
    | apply Woven.append
    | exact .plain (by decide)

end

/-! ## Tests -/

section

open Tests

theorem woven_intercalate {samples : List String}
    (woven : ∀ sample ∈ samples, Woven allowed sample) :
    Woven allowed (", ".intercalate samples) := by
  induction samples with
  | nil => exact .plain rfl
  | cons sample rest ih =>
    cases rest with
    | nil => simpa using woven sample (by simp)
    | cons next rest =>
      rw [String.intercalate_cons_cons]
      refine .append (.append (woven sample (by simp)) (.plain rfl)) (ih fun later member => ?_)
      exact woven later (by simp [member])

theorem woven_literals {samples : List String}
    (woven : ∀ sample ∈ samples, Woven Family.test.schema sample) :
    Woven Family.test.schema (literals samples) :=
  .append (.append (.append (.append (.plain rfl) (.token (by decide))) (.plain rfl))
    (woven_intercalate woven)) (.plain rfl)

theorem woven_check {assign given expected : String} (assign_ : Woven Family.test.schema assign)
    (given_ : Woven Family.test.schema given) (expected_ : Woven Family.test.schema expected) :
    Code.Woven Family.test.schema (check assign given expected) := by
  simp only [check, Tests.suffix, Code.block, Code.blockThen, Code.woven_line_iff,
    Code.woven_append_iff, Code.woven_inner_iff, List.forall_mem_cons, List.not_mem_nil,
    false_imp_iff, implies_true, and_true, toString]
  repeat' apply And.intro
  all_goals repeat' with_reducible first
    | assumption
    | exact .token (by decide)
    | apply Woven.append
    | exact .plain (by decide)

theorem woven_test {samples : List String}
    (woven : ∀ sample ∈ samples, Woven Family.test.schema sample) :
    Code.Woven Family.test.schema (Tests.dropLast samples) := by
  have part {assign : String} {samples : List String} (assign_ : Woven Family.test.schema assign)
      (woven : ∀ sample ∈ samples, Woven Family.test.schema sample) :
      Code.Woven Family.test.schema (checkSamples assign samples) :=
    woven_check assign_ (woven_literals woven)
      (woven_literals fun sample member => woven sample (List.dropLast_subset samples member))
  have start (count : Nat) : ∀ sample ∈ samples.take count, Woven Family.test.schema sample :=
    fun sample member => woven sample (List.mem_of_mem_take member)
  have nothing : ∀ sample ∈ ([] : List String), Woven Family.test.schema sample := by simp
  have head : Woven Family.test.schema s!"func TestDropLast{Tests.suffix}(t *testing.T)" :=
    .append (.append (.plain rfl) (.token (by decide))) (.plain rfl)
  simp only [Tests.dropLast, Code.block, Code.blockThen, Code.woven_line_iff, Code.woven_blank,
    Code.woven_append_iff, Code.woven_inner_iff, List.forall_mem_cons, List.not_mem_nil,
    false_imp_iff, implies_true, and_true, true_and]
  exact ⟨⟨.append head (.plain rfl), part (.plain rfl) woven, part (.plain rfl) (start 2),
    part (.plain rfl) (start 1), part (.plain rfl) nothing,
    woven_check (.plain rfl) (.plain rfl) (woven_literals nothing)⟩,
    .append (.plain rfl) (.plain rfl)⟩

end

/-! ## Templates -/

theorem woven_testFor (scalar : Scalar) : ∃ code, (testFor scalar).body = Code.text code ∧
    Code.Woven Family.test.schema code := by
  have plain (samples : List String) (plain : samples.all fun sample => isPlain sample.toList) :
      ∀ sample ∈ samples, Woven Family.test.schema sample := by
    intro sample member
    have := List.all_eq_true.mp plain sample member
    rw [← String.ofList_toList (s := sample)]
    exact .plain this
  cases scalar <;> exact ⟨_, rfl, woven_test (plain _ (by decide +kernel))⟩

end Catalogue

/-! ## Bindings that cover a template -/

/-- The value of a placeholder; no value is written as nothing. -/
def Bindings.value (bindings : Bindings) (placeholder : Placeholder) : String :=
  (bindings.get? placeholder).getD ""

/-- A template is covered by values for the placeholders that it is woven with. -/
theorem bound_of_woven {template : Template} {code : Code} (body : template.body = code.text)
    (woven : Code.Woven allowed code)
    (schema : ∀ placeholder ∈ allowed, placeholder ∈ template.family.schema)
    {bindings : Bindings}
    (given : ∀ placeholder ∈ allowed, (bindings.get? placeholder).isSome = true) :
    template.Bound bindings bindings.value := by
  intro name member
  rw [body] at member
  obtain ⟨placeholder, inside, named⟩ := woven.tokenNames_text name member
  refine ⟨placeholder, schema placeholder inside, named, ?_⟩
  obtain ⟨value, given_⟩ := Option.isSome_iff_exists.mp (given placeholder inside)
  rw [given_, Bindings.value, given_]
  rfl

/-- So are the templates of operations that are woven alike. -/
theorem bound_of_mem_operations {operations : List Operation} {family : Family}
    (woven : ∀ operation ∈ operations, Code.Woven allowed operation.code)
    (schema : ∀ placeholder ∈ allowed, placeholder ∈ family.schema) {bindings : Bindings}
    (given : ∀ placeholder ∈ allowed, (bindings.get? placeholder).isSome = true) :
    ∀ template ∈ operations.map (Operation.template family),
      template.Bound bindings bindings.value := by
  intro template member
  obtain ⟨operation, inside, rfl⟩ := List.mem_map.mp member
  exact bound_of_woven rfl (woven operation inside) schema given

end ListOps
