/-
# ListOps.Proofs.Declarations.PairNames -- names of operations on two types

The name of an operation on two types is a verb and up to two suffixes, with nothing
in between: two for different types, one for a type with itself, and none for the
package's own type.  `T` and `TT` show that such names may be ambiguous.  They are not
if no suffix is empty or begins another one, that is, if suffixes are a prefix-free
code: words of such a code are told apart wherever they are written one after the
other (`PrefixFree.uniquelyDecodable`).

So the suffixes behind a verb are read off a name, and they give away the places of
the types (`suffixesBehind_injOn`), since at most one type is called like the package.
The verbs are a prefix-free code themselves (`prefixFree_pairVerbs`), and conversions
and combinations have none in common.  Hence all these names are different:
`pair_functions_differ`.
-/
import Mathlib.Data.List.ProdSigma
import Mathlib.Data.List.Sigma
import Mathlib.InformationTheory.Coding.UniquelyDecodable
import ListOps.Proofs.SourceFile.FunctionNames
import ListOps.Proofs.SourceFile.PackageName

namespace ListOps

set_option autoImplicit false

/-! ## Prefix-free codes -/

section

variable {α : Type} {code : List (List α)}

/-- No word of the code begins another one. -/
def PrefixFree (code : List (List α)) : Prop :=
  ∀ word ∈ code, ∀ word' ∈ code, word <+: word' → word = word'

/-- The first word of a text is one only. -/
theorem PrefixFree.append_inj (free : PrefixFree code) {word word' rest rest' : List α}
    (inside : word ∈ code) (inside' : word' ∈ code) (same : word ++ rest = word' ++ rest') :
    word = word' ∧ rest = rest' := by
  have begins : word <+: word ++ rest := List.prefix_append word rest
  have begins' : word' <+: word ++ rest := same ▸ List.prefix_append word' rest'
  have first : word = word' := by
    rcases List.prefix_or_prefix_of_prefix begins begins' with shorter | longer
    · exact free word inside word' inside' shorter
    · exact (free word' inside' word inside longer).symm
  subst first
  exact ⟨rfl, List.append_cancel_left same⟩

theorem PrefixFree.uniquelyDecodable (free : PrefixFree code) (filled : [] ∉ code) :
    InformationTheory.UniquelyDecodable {word | word ∈ code} := by
  intro words words' inside inside' same
  induction words generalizing words' with
  | nil =>
    cases words' with
    | nil => rfl
    | cons word' rest' =>
      have empty : word' = [] := (List.append_eq_nil_iff.mp same.symm).1
      exact absurd (empty ▸ inside' word' List.mem_cons_self) filled
  | cons word rest ih =>
    cases words' with
    | nil =>
      have empty : word = [] := (List.append_eq_nil_iff.mp same).1
      exact absurd (empty ▸ inside word List.mem_cons_self) filled
    | cons word' rest' =>
      rw [List.forall_mem_cons] at inside inside'
      obtain ⟨rfl, behind⟩ := free.append_inj inside.1 inside'.1 same
      rw [ih rest' inside.2 inside'.2 behind]

end

namespace Declarations

open Catalogue

theorem prefixFree_pairVerbs :
    PrefixFree ((conversionVerbs ++ combinationVerbs).map String.toList) := by
  unfold PrefixFree
  decide

/-! ## Names by pairs of places -/

/-- A declared type and its place. -/
abbrev Placed := DeclaredType × Nat

section

variable (declarations : Declarations)

def placedPairs : List (Placed × Placed) :=
  declarations.types.zipIdx ×ˢ declarations.types.zipIdx

/-- The suffixes behind the verb of an operation on the types at two places. -/
def suffixesBehind (pair : Placed × Placed) : List String :=
  if pair.1.2 ≠ pair.2.2 then [pair.1.1.suffix, pair.2.1.suffix]
  else if Text.lower pair.1.1.name = Text.lower declarations.package then []
  else [pair.1.1.suffix]

theorem suffixesBehind_length_eq_two_iff {pair : Placed × Placed} :
    (declarations.suffixesBehind pair).length = 2 ↔ pair.1.2 ≠ pair.2.2 := by
  unfold suffixesBehind
  by_cases self : pair.1.2 = pair.2.2
  · simp only [self, ne_eq, not_true_eq_false, if_false, iff_false]
    split <;> simp
  · simp [self]

/-- How the operation on the types at two places is called. -/
def pairName (use : (Placed × Placed) × String) : String :=
  use.2 ++ String.join (declarations.suffixesBehind use.1)

/-- The pairs of places that are kept, with all verbs. -/
def usesAtPlaces (keep : Placed × Placed → Bool) (verbs : List String) :
    List ((Placed × Placed) × String) :=
  (declarations.placedPairs.filter keep) ×ˢ verbs

def conversionsAtPlaces : List ((Placed × Placed) × String) :=
  declarations.usesAtPlaces
    (fun pair => ¬ (pair.1.2 = pair.2.2 ∨ pair.1.1.isScalar ∧ pair.2.1.isScalar)) conversionVerbs

def combinationsAtPlaces : List ((Placed × Placed) × String) :=
  declarations.usesAtPlaces (fun pair => ¬ (pair.1.1.isScalar ∧ pair.2.1.isScalar))
    combinationVerbs

theorem mem_placedPairs {pair : Placed × Placed} : pair ∈ declarations.placedPairs ↔
    pair.1 ∈ declarations.types.zipIdx ∧ pair.2 ∈ declarations.types.zipIdx :=
  List.mem_product

section

variable {keep : Placed × Placed → Bool} {verbs : List String}

theorem mem_usesAtPlaces {use : (Placed × Placed) × String}
    (member : use ∈ declarations.usesAtPlaces keep verbs) :
    use.1 ∈ declarations.placedPairs ∧ use.2 ∈ verbs := by
  obtain ⟨kept, offered⟩ := List.mem_product.mp member
  exact ⟨(List.mem_filter.mp kept).1, offered⟩

theorem nodup_usesAtPlaces (different : verbs.Nodup) :
    (declarations.usesAtPlaces keep verbs).Nodup := by
  have places : declarations.types.zipIdx.Nodup := (List.nodup_zipIdx_map_snd _).of_map _
  exact ((places.product places).filter keep).product different

theorem map_usesAtPlaces {β : Type} (name : (Placed × Placed) × String → β) :
    (declarations.usesAtPlaces keep verbs).map name =
      declarations.types.zipIdx.flatMap fun first => declarations.types.zipIdx.flatMap fun second =>
        if keep (first, second) then verbs.map fun verb => name ((first, second), verb) else [] := by
  calc (declarations.usesAtPlaces keep verbs).map name
      = (declarations.placedPairs.filter keep).flatMap fun pair =>
          verbs.map fun verb => name (pair, verb) := by
        simp [usesAtPlaces, SProd.sprod, List.product, List.map_flatMap, Function.comp_def]
    _ = _ := by
        rw [flatMap_filter]
        simp [placedPairs, SProd.sprod, List.product, List.flatMap_assoc, List.flatMap_map]

end

theorem conversionNames_eq_map :
    declarations.conversionNames = declarations.conversionsAtPlaces.map declarations.pairName := by
  rw [conversionsAtPlaces, map_usesAtPlaces, conversionNames]
  refine List.flatMap_congr fun first _ => List.flatMap_congr fun second _ => ?_
  by_cases skipped : first.2 = second.2 ∨ first.1.isScalar = true ∧ second.1.isScalar = true
  · simp [skipped]
  · have apart : first.2 ≠ second.2 := fun same => skipped (.inl same)
    simp only [skipped, not_false_eq_true, decide_true, if_true, if_false]
    simp [pairName, suffixesBehind, apart]

theorem combinationNames_eq_map :
    declarations.combinationNames =
      declarations.combinationsAtPlaces.map declarations.pairName := by
  rw [combinationsAtPlaces, map_usesAtPlaces, combinationNames]
  refine List.flatMap_congr fun key _ => List.flatMap_congr fun value _ => ?_
  by_cases skipped : key.1.isScalar = true ∧ value.1.isScalar = true
  · simp [skipped]
  · simp only [skipped, if_false, pairName, suffixesBehind]
    by_cases apart : key.2 ≠ value.2
    · simp [apart]
    · by_cases own : Text.lower key.1.name = Text.lower declarations.package
      · simp [apart, own]
      · simp [apart, own]

theorem exists_of_mem_suffixesBehind {pair : Placed × Placed} {suffix : String}
    (inside : pair ∈ declarations.placedPairs) (behind : suffix ∈ declarations.suffixesBehind pair) :
    ∃ type ∈ declarations.types, suffix = type.suffix := by
  obtain ⟨inFirst, inSecond⟩ := declarations.mem_placedPairs.mp inside
  have either : suffix = pair.1.1.suffix ∨ suffix = pair.2.1.suffix := by
    unfold suffixesBehind at behind
    split at behind
    · simpa using behind
    · split at behind
      · simp at behind
      · exact .inl (List.mem_singleton.mp behind)
  rcases either with rfl | rfl
  · exact ⟨_, List.fst_mem_of_mem_zipIdx inFirst, rfl⟩
  · exact ⟨_, List.fst_mem_of_mem_zipIdx inSecond, rfl⟩

/-- Conversions and combinations have no verb in common. -/
theorem nodup_atPlaces :
    (declarations.conversionsAtPlaces ++ declarations.combinationsAtPlaces).Nodup := by
  have conversions : declarations.conversionsAtPlaces.Nodup :=
    declarations.nodup_usesAtPlaces (by decide)
  have combinations : declarations.combinationsAtPlaces.Nodup :=
    declarations.nodup_usesAtPlaces (by decide)
  refine List.nodup_append'.mpr ⟨conversions, combinations, fun use converts combines => ?_⟩
  have verbs : ∀ verb ∈ conversionVerbs, verb ∉ combinationVerbs := by decide
  exact verbs use.2 (declarations.mem_usesAtPlaces converts).2
    (declarations.mem_usesAtPlaces combines).2

end

/-! ## Names that tell places apart -/

section

variable {package : String} {recognition : Recognition} {names : List String}

theorem eq_of_place_eq {first second : Placed}
    (inFirst : first ∈ (DeclaredType.ofNames recognition names).zipIdx)
    (inSecond : second ∈ (DeclaredType.ofNames recognition names).zipIdx)
    (same : first.2 = second.2) : first = second :=
  Prod.ext (DeclaredType.eq_of_place_eq inFirst inSecond same) same

variable (apart : ∀ first ∈ DeclaredType.ofNames recognition names,
    ∀ second ∈ DeclaredType.ofNames recognition names,
      first ≠ second → ¬ first.suffix.toList <+: second.suffix.toList)

include apart

theorem prefixFree_suffixes : PrefixFree
    ((DeclaredType.ofNames recognition names).map fun type => type.suffix.toList) := by
  intro word inside word' inside' begins
  obtain ⟨type, declared, rfl⟩ := List.mem_map.mp inside
  obtain ⟨type', declared', rfl⟩ := List.mem_map.mp inside'
  by_cases same : type = type'
  · rw [same]
  · exact absurd begins (apart type declared type' declared' same)

/-- The suffix of a declared type gives away its place. -/
theorem eq_of_suffix_eq {first second : Placed}
    (inFirst : first ∈ (DeclaredType.ofNames recognition names).zipIdx)
    (inSecond : second ∈ (DeclaredType.ofNames recognition names).zipIdx)
    (same : first.1.suffix = second.1.suffix) : first = second := by
  have types : first.1 = second.1 := by
    by_contra other
    exact apart _ (List.fst_mem_of_mem_zipIdx inFirst) _ (List.fst_mem_of_mem_zipIdx inSecond)
      other (same ▸ List.prefix_rfl)
  have places : first.2 = second.2 :=
    (DeclaredType.name_eq_iff inFirst inSecond).mp (congrArg DeclaredType.name types)
  exact Prod.ext types places

/-- A type paired with itself is known by its suffix, or else by having none: at most one
type goes without. -/
theorem fst_eq_of_suffixesBehind_self {pair pair' : Placed × Placed}
    (inFirst : pair.1 ∈ (DeclaredType.ofNames recognition names).zipIdx)
    (inFirst' : pair'.1 ∈ (DeclaredType.ofNames recognition names).zipIdx)
    (self : pair.1.2 = pair.2.2) (self' : pair'.1.2 = pair'.2.2)
    (same : suffixesBehind ⟨package, DeclaredType.ofNames recognition names⟩ pair =
      suffixesBehind ⟨package, DeclaredType.ofNames recognition names⟩ pair') :
    pair.1 = pair'.1 := by
  simp only [suffixesBehind, self, self', ne_eq, not_true_eq_false, if_false] at same
  by_cases own : Text.lower pair.1.1.name = Text.lower package
  · by_cases own' : Text.lower pair'.1.1.name = Text.lower package
    · have places : pair.1.2 = pair'.1.2 :=
        (DeclaredType.lower_name_eq_iff inFirst inFirst').mp (own.trans own'.symm)
      exact eq_of_place_eq inFirst inFirst' places
    · simp [own, own'] at same
  · by_cases own' : Text.lower pair'.1.1.name = Text.lower package
    · simp [own, own'] at same
    · have suffixes : pair.1.1.suffix = pair'.1.1.suffix := by
        simpa [own, own'] using same
      exact eq_of_suffix_eq apart inFirst inFirst' suffixes

/-- The suffixes behind a verb give away the places of both types. -/
theorem suffixesBehind_injOn {pair pair' : Placed × Placed}
    (inside : pair ∈ placedPairs ⟨package, DeclaredType.ofNames recognition names⟩)
    (inside' : pair' ∈ placedPairs ⟨package, DeclaredType.ofNames recognition names⟩)
    (same : suffixesBehind ⟨package, DeclaredType.ofNames recognition names⟩ pair =
      suffixesBehind ⟨package, DeclaredType.ofNames recognition names⟩ pair') :
    pair = pair' := by
  obtain ⟨inFirst, inSecond⟩ := (mem_placedPairs _).mp inside
  obtain ⟨inFirst', inSecond'⟩ := (mem_placedPairs _).mp inside'
  -- different types have two suffixes, a type and itself have fewer
  have alike : pair.1.2 ≠ pair.2.2 ↔ pair'.1.2 ≠ pair'.2.2 := by
    rw [← suffixesBehind_length_eq_two_iff, same, suffixesBehind_length_eq_two_iff]
  by_cases self : pair.1.2 = pair.2.2
  · have self' : pair'.1.2 = pair'.2.2 := by
      by_contra different
      exact alike.mpr different self
    have first := fst_eq_of_suffixesBehind_self apart inFirst inFirst' self self' same
    have once : pair.1 = pair.2 := eq_of_place_eq inFirst inSecond self
    have once' : pair'.1 = pair'.2 := eq_of_place_eq inFirst' inSecond' self'
    exact Prod.ext first (by rw [← once, ← once', first])
  · rw [suffixesBehind, if_pos self, suffixesBehind, if_pos (alike.mp self), List.cons.injEq,
      List.cons.injEq] at same
    exact Prod.ext (eq_of_suffix_eq apart inFirst inFirst' same.1)
      (eq_of_suffix_eq apart inSecond inSecond' same.2.1)

/-- Nothing between verb and suffixes is needed to read a name. -/
theorem pairName_injOn
    (filled : ∀ type ∈ DeclaredType.ofNames recognition names, type.suffix ≠ "")
    {use use' : (Placed × Placed) × String}
    (inside : use.1 ∈ placedPairs ⟨package, DeclaredType.ofNames recognition names⟩)
    (inside' : use'.1 ∈ placedPairs ⟨package, DeclaredType.ofNames recognition names⟩)
    (offered : use.2 ∈ conversionVerbs ++ combinationVerbs)
    (offered' : use'.2 ∈ conversionVerbs ++ combinationVerbs)
    (same : pairName ⟨package, DeclaredType.ofNames recognition names⟩ use =
      pairName ⟨package, DeclaredType.ofNames recognition names⟩ use') : use = use' := by
  have written := congrArg String.toList same
  rw [pairName, pairName, String.toList_append, String.toList_append, String.toList_join,
    String.toList_join] at written
  obtain ⟨verbs, behind⟩ := prefixFree_pairVerbs.append_inj
    (List.mem_map_of_mem offered) (List.mem_map_of_mem offered') written
  have decoded := (prefixFree_suffixes apart).uniquelyDecodable (fun empty => by
    obtain ⟨type, declared, blank⟩ := List.mem_map.mp empty
    exact filled type declared (String.toList_eq_nil_iff.mp blank))
  have words {pair : Placed × Placed}
      (inside : pair ∈ placedPairs ⟨package, DeclaredType.ofNames recognition names⟩) :
      ∀ word ∈ (suffixesBehind ⟨package, DeclaredType.ofNames recognition names⟩ pair).map
        String.toList, word ∈ (DeclaredType.ofNames recognition names).map
          fun type => type.suffix.toList := by
    intro word member
    obtain ⟨suffix, behindVerb, rfl⟩ := List.mem_map.mp member
    obtain ⟨type, declared, rfl⟩ := exists_of_mem_suffixesBehind _ inside behindVerb
    exact List.mem_map_of_mem declared
  have suffixes := decoded _ _ (words inside) (words inside') behind
  have pairs : use.1 = use'.1 :=
    suffixesBehind_injOn apart inside inside' (List.map_injective_iff.mpr
      (fun _ _ => String.toList_inj.mp) suffixes)
  exact Prod.ext pairs (String.toList_inj.mp verbs)

theorem pairNames_nodup
    (filled : ∀ type ∈ DeclaredType.ofNames recognition names, type.suffix ≠ "") :
    (conversionNames ⟨package, DeclaredType.ofNames recognition names⟩ ++
      combinationNames ⟨package, DeclaredType.ofNames recognition names⟩).Nodup := by
  rw [conversionNames_eq_map, combinationNames_eq_map, ← List.map_append]
  have places {use : (Placed × Placed) × String}
      (member : use ∈ conversionsAtPlaces ⟨package, DeclaredType.ofNames recognition names⟩ ++
        combinationsAtPlaces ⟨package, DeclaredType.ofNames recognition names⟩) :
      use.1 ∈ placedPairs ⟨package, DeclaredType.ofNames recognition names⟩ ∧
        use.2 ∈ conversionVerbs ++ combinationVerbs := by
    rcases List.mem_append.mp member with converts | combines
    · obtain ⟨inside, offered⟩ := mem_usesAtPlaces _ converts
      exact ⟨inside, List.mem_append_left _ offered⟩
    · obtain ⟨inside, offered⟩ := mem_usesAtPlaces _ combines
      exact ⟨inside, List.mem_append_right _ offered⟩
  refine (nodup_atPlaces _).map_on fun use member use' member' same => ?_
  exact pairName_injOn apart filled (places member).1 (places member').1 (places member).2
    (places member').2 same

end

/-- **Operations on two types never share a name if suffixes can be told apart**: if
none is empty and none begins another one, all functions that conversions and
combinations declare together are called differently.  Suffixes behind a verb may run
together, one may stand for two, and the package's own type needs none. -/
theorem pair_functions_differ (package : String) (recognition : Recognition) (names : List String)
    (plain : ∀ type ∈ DeclaredType.ofNames recognition names,
      '\n' ∉ type.name.toList ∧ '(' ∉ type.name.toList)
    (filled : ∀ type ∈ DeclaredType.ofNames recognition names, type.suffix ≠ "")
    (apart : ∀ first ∈ DeclaredType.ofNames recognition names,
      ∀ second ∈ DeclaredType.ofNames recognition names,
        first ≠ second → ¬ first.suffix.toList <+: second.suffix.toList) :
    let declarations : Declarations := ⟨package, DeclaredType.ofNames recognition names⟩
    ∃ converted combined : String,
      declarations.conversions = .ok converted ∧ declarations.combinations = .ok combined ∧
      (SourceFile.functionNames ⟨converted⟩ ++ SourceFile.functionNames ⟨combined⟩).Nodup := by
  intro declarations
  refine ⟨_, _, declarations.conversions_eq_ok, declarations.combinations_eq_ok, ?_⟩
  -- the package counts through the types called like it only, and white space around it does not
  let request : Request := ⟨package, names, [], recognition⟩
  have unbroken : ∀ type ∈ request.declaredTypes,
      '\n' ∉ type.name.toList ∧ '(' ∉ type.name.toList := plain
  have conversions : declarations.conversionUses = request.declarations.conversionUses := rfl
  have combinations : declarations.combinationUses = request.declarations.combinationUses := by
    refine combinationUses_congr fun type _ => ?_
    rw [namesPackage_eq_iff, Text.trim_trim]
  have converted : SourceFile.functionNames ⟨TemplateUse.text declarations.conversionUses⟩ =
      request.declarations.conversionNames := by
    rw [conversions]
    exact (Request.declares_conversionUses unbroken).functionNames_eq
  have combined : SourceFile.functionNames ⟨TemplateUse.text declarations.combinationUses⟩ =
      request.declarations.combinationNames := by
    rw [combinations]
    exact (Request.declares_combinationUses unbroken).functionNames_eq
  rw [converted, combined]
  exact pairNames_nodup apart filled

/-- One type is called like the package, and one is a scalar. -/
theorem pair_functions_differ_own :
    let types := DeclaredType.ofNames .exact ["hr.Teacher", " P", "INT", "p"]
    (∀ type ∈ types, '\n' ∉ type.name.toList ∧ '(' ∉ type.name.toList) ∧
    (∀ type ∈ types, type.suffix ≠ "") ∧
    (∀ first ∈ types, ∀ second ∈ types,
      first ≠ second → ¬ first.suffix.toList <+: second.suffix.toList) ∧
    ∃ converted combined : String,
      conversions ⟨"p ", types⟩ = .ok converted ∧ combinations ⟨"p ", types⟩ = .ok combined ∧
      (SourceFile.functionNames ⟨converted⟩ ++ SourceFile.functionNames ⟨combined⟩).Nodup := by
  intro types
  have plain : ∀ type ∈ types, '\n' ∉ type.name.toList ∧ '(' ∉ type.name.toList := by decide
  have filled : ∀ type ∈ types, type.suffix ≠ "" := by decide +kernel
  have apart : ∀ first ∈ types, ∀ second ∈ types,
      first ≠ second → ¬ first.suffix.toList <+: second.suffix.toList := by decide +kernel
  exact ⟨plain, filled, apart,
    pair_functions_differ "p " .exact ["hr.Teacher", " P", "INT", "p"] plain filled apart⟩

end Declarations

end ListOps
