/-
# ListOps.Proofs.SourceFile.Imports -- what a generated file imports

Import lines stand in the heading only: the lines of functions start otherwise
(`TemplateUse.importLine_not_mem_lines`).  The heading imports `sync` for the
parallel maps, which are there as soon as one type is no scalar
(`Request.ownImports_eq`), and then each path of the request once.  So an import
line is found in a file as often as the heading lists its path
(`Request.count_importText`).

The two lists are not compared with each other.  A request that names `sync` and
declares a type that is no scalar gets `import "sync"` twice, and this is the only
way to get any line twice.
-/
import Mathlib.Data.List.Count
import Mathlib.Data.List.Flatten
import Mathlib.Data.List.Nodup
import ListOps.Proofs.SourceFile.FunctionNames
import ListOps.Proofs.SourceFile.Lines

namespace ListOps

set_option autoImplicit false

open SourceFile

/-! ## The lines of functions -/

namespace Operation

variable {operation : Operation}

/-- Lines of functions start with a slash, an `f`, a tab or a brace, if at all. -/
theorem head?_filled_ne (value : Placeholder → String) {line : Line}
    (inside : line ∈ operation.code) : (line.filled value).head? ≠ some 'i' := by
  rw [code_eq, List.mem_cons, List.mem_cons] at inside
  rcases inside with rfl | rfl | body
  · rw [head?_filled_commentLine]
    decide
  · rw [head?_filled_headLine]
    decide
  · exact head?_filled_of_mem_bodyLines value body (by decide) (by decide)

end Operation

/-- The line that imports `path`. -/
def SourceFile.importText (path : String) : String :=
  "import \"" ++ path ++ "\""

theorem SourceFile.toList_importText (path : String) :
    (importText path).toList = "import \"".toList ++ (path.toList ++ ['"']) := by
  simp [importText, String.toList_append]

theorem SourceFile.importText_ne_empty (path : String) : importText path ≠ "" :=
  fun empty => by simpa [toList_importText] using congrArg String.toList empty

theorem SourceFile.importText_injective : Function.Injective importText := by
  intro path path' same
  have written := congrArg String.toList same
  rw [toList_importText, toList_importText, List.append_cancel_left_eq,
    List.append_cancel_right_eq] at written
  exact String.toList_inj.mp written

namespace TemplateUse

/-- The values of the use break no lines. -/
def Unbroken (use : TemplateUse) : Prop :=
  ∀ placeholder, '\n' ∉ (use.bindings.value placeholder).toList

section

variable {allowed : List Placeholder} {operations : List Operation} {family : Family}
  {bindings : List Bindings} {use : TemplateUse}

theorem lines_written {operation : Operation} {values : Bindings}
    (woven : Code.Woven allowed operation.code)
    (unbroken : ∀ placeholder, '\n' ∉ (values.value placeholder).toList) :
    Text.lines (written ⟨operation.template family, values⟩) =
      operation.code.map fun line =>
        String.ofList (Chars.dropReturn (line.filled values.value)) := by
  have whole : ∀ text ∈ operation.code.map fun line =>
      String.ofList (line.filled values.value ++ ['\n']), Whole text := by
    intro text member
    obtain ⟨line, -, rfl⟩ := List.mem_map.mp member
    simp [Whole, eq_comm]
  rw [written_operation, Text.lines_join whole, List.flatMap_map, List.map_eq_flatMap]
  exact List.flatMap_congr fun line member =>
    Text.lines_line (Line.newline_not_mem_filled unbroken (woven line member))

theorem importLine_not_mem_lines
    (woven : ∀ operation ∈ operations, Code.Woven allowed operation.code)
    (member : use ∈ every (operations.map (Operation.template family)) bindings)
    (unbroken : use.Unbroken) (path : String) : importText path ∉ Text.lines use.written := by
  obtain ⟨operation, offered, values, -, rfl⟩ := exists_operation member
  rw [lines_written (woven operation offered) unbroken]
  intro inside
  obtain ⟨line, code, same⟩ := List.mem_map.mp inside
  apply Chars.head?_dropReturn_ne (operation.head?_filled_ne values.value code)
  rw [← String.toList_ofList (l := Chars.dropReturn (line.filled values.value)), same,
    toList_importText]
  rfl

end

/-- No text is written exactly if every use writes nothing. -/
theorem isEmpty_text_iff {uses : List TemplateUse} :
    (text uses).isEmpty = true ↔ ∀ use ∈ uses, use.filled = [] := by
  rw [String.isEmpty_iff, text, String.ofList_eq_empty_iff, List.flatMap_eq_nil_iff]

theorem filled_ne_nil (operation : Operation) (family : Family) (values : Bindings) :
    filled ⟨operation.template family, values⟩ ≠ [] := by
  rw [filled, Operation.template, fill_text_eq_filled, Operation.code_eq]
  simp

end TemplateUse

/-! ## What needs `sync` -/

namespace Declarations

variable (declarations : Declarations)

/-- Every operation on one type is used for every type that is no scalar. -/
theorem exists_singleUse {operation : Operation} (offered : operation ∈ Catalogue.Single.all)
    {type : DeclaredType} (declared : type ∈ declarations.types) (other : type.isScalar = false) :
    ∃ carried, ⟨operation.template .single, singleBindings declarations.package type carried⟩ ∈
      declarations.singleUses := by
  obtain ⟨carried, inside⟩ := exists_withCarried declarations.package "" declared
  refine ⟨carried, List.mem_flatMap.mpr ⟨_, List.mem_map_of_mem (List.mem_filter.mpr ⟨inside, ?_⟩),
    List.mem_map_of_mem (List.mem_map_of_mem offered)⟩⟩
  simpa using other

/-- For scalars alone nothing is used. -/
theorem uses_eq_nil (scalars : ∀ type ∈ declarations.types, type.isScalar = true) :
    declarations.singleUses = [] ∧ declarations.conversionUses = [] ∧
      declarations.combinationUses = [] := by
  have single : (withCarried declarations.package "" declarations.types).filter
      (fun entry => !entry.1.isScalar) = [] := by
    refine List.filter_eq_nil_iff.mpr fun entry member => ?_
    simp [scalars _ (mem_withCarried _ member).1]
  have unneeded : ∀ pair ∈ declarations.pairs, needsOperations pair.1 pair.2 = false := by
    intro pair member
    obtain ⟨inFirst, inSecond⟩ := mem_pairs member
    rw [needsOperations, scalars _ inFirst, scalars _ inSecond]
    rfl
  have conversions : declarations.pairs.filter (fun pair => needsConversions pair.1 pair.2) = [] :=
    List.filter_eq_nil_iff.mpr fun pair member => by simp [needsConversions, unneeded pair member]
  have combinations : declarations.pairs.filter (fun pair => needsOperations pair.1 pair.2) = [] :=
    List.filter_eq_nil_iff.mpr fun pair member => by simp [unneeded pair member]
  rw [singleUses, conversionUses, combinationUses, single, conversions, combinations]
  exact ⟨rfl, rfl, rfl⟩

/-- Single operations are written as soon as one type is no scalar. -/
theorem isEmpty_text_singleUses_iff :
    (TemplateUse.text declarations.singleUses).isEmpty = true ↔
      ∀ type ∈ declarations.types, type.isScalar = true := by
  constructor
  · intro empty type declared
    by_contra other
    obtain ⟨carried, used⟩ := declarations.exists_singleUse List.mem_cons_self declared
      (Bool.eq_false_iff.mpr other)
    exact TemplateUse.filled_ne_nil _ _ _ (TemplateUse.isEmpty_text_iff.mp empty _ used)
  · intro scalars
    rw [(declarations.uses_eq_nil scalars).1]
    rfl

theorem isEmpty_text_conversionUses (scalars : ∀ type ∈ declarations.types, type.isScalar = true) :
    (TemplateUse.text declarations.conversionUses).isEmpty = true := by
  rw [(declarations.uses_eq_nil scalars).2.1]
  rfl

end Declarations

namespace Request

variable {request : Request}

theorem ownImports_eq : request.ownImports =
    if ∀ type ∈ request.declaredTypes, type.isScalar = true then [] else ["sync"] := by
  have single := request.declarations.isEmpty_text_singleUses_iff
  unfold ownImports
  by_cases scalars : ∀ type ∈ request.declaredTypes, type.isScalar = true
  · have conversions := request.declarations.isEmpty_text_conversionUses scalars
    rw [if_pos scalars, single.mpr scalars, conversions]
    rfl
  · rw [if_neg scalars, if_neg fun empty => scalars (single.mp (Bool.and_eq_true_iff.mp empty).1)]

/-- What stands in no path of the request and not in `sync` stands in no path that is
imported. -/
theorem not_mem_of_mem_imports {c : Char} (outside : c ∉ "sync".toList)
    (imports : ∀ path ∈ request.imports, c ∉ (Text.trim path).toList) {path : String}
    (member : path ∈ request.ownImports ++ Text.distinct request.imports) : c ∉ path.toList := by
  rcases List.mem_append.mp member with own | asked
  · rw [ownImports_eq] at own
    split at own
    · simp at own
    · rwa [List.mem_singleton.mp own]
  · obtain ⟨path, given, rfl⟩ := List.mem_map.mp (Text.mem_distinct.mp asked)
    exact imports path given

/-! ## All lines -/

section

variable {use : TemplateUse} {c : Char}

/-- What stands in no name stands in no value of a use. -/
theorem not_mem_value_of_mem_singleUses (package : c ∉ (Text.trim request.package).toList)
    (types : ∀ type ∈ request.declaredTypes, c ∉ type.name.toList)
    (member : use ∈ request.declarations.singleUses) (placeholder : Placeholder) :
    c ∉ (use.bindings.value placeholder).toList := by
  obtain ⟨operation, -, values, given, rfl⟩ := TemplateUse.exists_operation member
  obtain ⟨⟨type, carried⟩, kept, rfl⟩ := List.mem_map.mp given
  obtain ⟨declared, named⟩ := Declarations.mem_withCarried _ (List.mem_filter.mp kept).1
  have absent : c ∉ (Name.unqualified carried).toList := by
    intro inside
    have own := Name.mem_unqualified inside
    rcases named with rfl | ⟨type', declared', rfl⟩
    · simp at own
    · exact types type' declared' own
  refine Bindings.not_mem_value ?_ placeholder
  simp only [List.forall_mem_cons]
  exact ⟨package, types type declared, absent, by simp⟩

variable (types : ∀ type ∈ request.declaredTypes,
  c ∉ type.valueType.toList ∧ c ∉ type.suffix.toList)

include types

theorem not_mem_value_of_mem_conversionUses (member : use ∈ request.declarations.conversionUses)
    (placeholder : Placeholder) : c ∉ (use.bindings.value placeholder).toList := by
  obtain ⟨operation, -, values, given, rfl⟩ := TemplateUse.exists_operation member
  obtain ⟨⟨input, output⟩, kept, rfl⟩ := List.mem_map.mp given
  obtain ⟨inputDeclared, outputDeclared⟩ := Declarations.mem_pairs (List.mem_filter.mp kept).1
  obtain ⟨inputValue, inputSuffix⟩ := types input inputDeclared
  obtain ⟨outputValue, outputSuffix⟩ := types output outputDeclared
  refine Bindings.not_mem_value ?_ placeholder
  simp only [List.forall_mem_cons]
  exact ⟨inputSuffix, outputSuffix, inputValue, outputValue, by simp⟩

theorem not_mem_value_of_mem_combinationUses
    (member : use ∈ request.declarations.combinationUses) (placeholder : Placeholder) :
    c ∉ (use.bindings.value placeholder).toList := by
  obtain ⟨operation, -, values, given, rfl⟩ := TemplateUse.exists_operation member
  obtain ⟨⟨key, value⟩, kept, rfl⟩ := List.mem_map.mp given
  obtain ⟨keyDeclared, valueDeclared⟩ := Declarations.mem_pairs (List.mem_filter.mp kept).1
  obtain ⟨keyValue, keySuffix⟩ := types key keyDeclared
  obtain ⟨valueValue, valueSuffix⟩ := types value valueDeclared
  obtain ⟨first, second⟩ := Declarations.combinationSuffixes_absent
    request.declarations.package keySuffix valueSuffix
  refine Bindings.not_mem_value ?_ placeholder
  simp only [List.forall_mem_cons]
  exact ⟨first, second, keyValue, valueValue, by simp⟩

end

end Request

/-- Lines at no depth are read as they are written. -/
theorem Code.lines_print_outermost {texts : List String}
    (unbroken : ∀ text ∈ texts, '\n' ∉ text.toList)
    (unreturned : ∀ text ∈ texts, text.toList.getLast? ≠ some '\r') :
    ((texts.flatMap Code.line).map Line.print).flatMap Text.lines = texts := by
  induction texts with
  | nil => rfl
  | cons text rest ih =>
    rw [List.forall_mem_cons] at unbroken unreturned
    have first : Text.lines (Line.print ⟨0, text⟩) = [text] := by
      rw [Text.lines_print unbroken.1, Line.indent_outermost, List.nil_append,
        Chars.dropReturn_eq_self unreturned.1, String.ofList_toList]
    rw [List.flatMap_cons, List.map_append, List.flatMap_append, ih unbroken.2 unreturned.2]
    simp [Code.line, first]

namespace SourceFile

variable {package : String} {imports : List String} (packageUnbroken : '\n' ∉ package.toList)
  (packageUnreturned : '\r' ∉ package.toList)
  (importsUnbroken : ∀ path ∈ imports, '\n' ∉ path.toList)

include packageUnbroken packageUnreturned importsUnbroken

theorem lines_headingCode :
    ((headingCode package imports).map Line.print).flatMap Text.lines =
      notice :: ("package " ++ package) :: imports.map importText ++ [""] := by
  have code : headingCode package imports =
      (notice :: ("package " ++ package) :: imports.map importText ++ [""]).flatMap Code.line := by
    have imported : importLine = fun path => Code.line (importText path) := rfl
    simp [headingCode, imported, Code.blank, Code.line, List.flatMap_map]
  have noticeUnbroken : '\n' ∉ notice.toList := by decide
  rw [code, Code.lines_print_outermost]
  · simpa [or_imp, forall_and, noticeUnbroken, packageUnbroken, importText] using importsUnbroken
  · have noticeUnreturned : notice.toList.getLast? ≠ some '\r' := by decide
    have packageLine : ("package " ++ package).toList.getLast? ≠ some '\r' := by
      intro last
      have inside := List.mem_of_getLast? last
      rw [String.toList_append, List.mem_append] at inside
      exact inside.elim (by decide) packageUnreturned
    have importLines (path : String) : (importText path).toList.getLast? ≠ some '\r' := by
      rw [toList_importText, ← List.append_assoc, List.getLast?_concat]
      decide
    rw [List.cons_append, List.cons_append, List.forall_mem_cons, List.forall_mem_cons,
      List.forall_mem_append, List.forall_mem_map]
    exact ⟨noticeUnreturned, packageLine, fun path _ => importLines path, by simp⟩

theorem count_headingCode (path : String) :
    (((headingCode package imports).map Line.print).flatMap Text.lines).count (importText path) =
      imports.count path := by
  have notNotice : notice ≠ importText path := fun same => by
    simpa [toList_importText, notice] using congrArg String.toList same
  have notPackage : "package " ++ package ≠ importText path := fun same => by
    simpa [toList_importText] using congrArg String.toList same
  rw [lines_headingCode packageUnbroken packageUnreturned importsUnbroken, List.count_append,
    List.count_cons_of_ne notNotice, List.count_cons_of_ne notPackage,
    List.count_map_of_injective _ _ importText_injective,
    List.count_cons_of_ne (importText_ne_empty path).symm, List.count_nil, Nat.add_zero]

end SourceFile

namespace Request

variable {request : Request}

/-- How often a file imports a path: as often as its heading lists it. -/
theorem count_importText (valid : request.validate = .ok ())
    (types : ∀ type ∈ request.declaredTypes, '\n' ∉ type.name.toList)
    (imports : ∀ path ∈ request.imports, '\n' ∉ (Text.trim path).toList) (path : String) :
    (Text.lines request.generatedText).count (importText path) =
      request.ownImports.count path + (Text.distinct request.imports).count path := by
  -- only the heading counts: functions have no such lines, and the rest is blank
  have quiet (uses : List TemplateUse)
      (absent : ∀ use ∈ uses, importText path ∉ Text.lines use.written) :
      ((uses.map TemplateUse.written).flatMap Text.lines).count (importText path) = 0 := by
    rw [List.count_eq_zero, List.flatMap_map, List.mem_flatMap]
    rintro ⟨use, member, inside⟩
    exact absent use member inside
  have written : ∀ type ∈ request.declaredTypes,
      '\n' ∉ type.valueType.toList ∧ '\n' ∉ type.suffix.toList :=
    fun type declared => DeclaredType.newline_absent declared (types type declared)
  have single := quiet request.declarations.singleUses fun use member =>
    TemplateUse.importLine_not_mem_lines Catalogue.woven_single member
      (not_mem_value_of_mem_singleUses (newline_not_mem_package valid) types member) path
  have conversions := quiet request.declarations.conversionUses fun use member =>
    TemplateUse.importLine_not_mem_lines Catalogue.woven_conversion member
      (not_mem_value_of_mem_conversionUses written member) path
  have combinations := quiet request.declarations.combinationUses fun use member =>
    TemplateUse.importLine_not_mem_lines Catalogue.woven_combination member
      (not_mem_value_of_mem_combinationUses written member) path
  have unbroken : ∀ path ∈ request.ownImports ++ Text.distinct request.imports,
      '\n' ∉ path.toList := fun path member =>
    not_mem_of_mem_imports (by decide) imports member
  have packageUnreturned : '\r' ∉ (Text.trim request.package).toList :=
    not_mem_package valid (by decide +kernel)
  have blank : (["\n"].flatMap Text.lines).count (importText path) = 0 := by
    rw [List.count_eq_zero]
    exact fun empty => importText_ne_empty path (List.mem_singleton.mp empty)
  rw [lines_generatedText, stretches, headingCode]
  simp only [List.flatMap_append, List.count_append, single, conversions, combinations, blank,
    Nat.add_zero]
  exact (count_headingCode (newline_not_mem_package valid) packageUnreturned unbroken path).trans
    List.count_append

theorem count_distinct_le (request : Request) (path : String) :
    (Text.distinct request.imports).count path ≤ 1 :=
  List.nodup_iff_count_le_one.mp Text.distinct_nodup path

theorem count_ownImports (path : String) : request.ownImports.count path =
    if path = "sync" ∧ ∃ type ∈ request.declaredTypes, type.isScalar = false then 1 else 0 := by
  rw [ownImports_eq]
  by_cases scalars : ∀ type ∈ request.declaredTypes, type.isScalar = true
  · rw [if_pos scalars, if_neg, List.count_nil]
    rintro ⟨-, type, declared, other⟩
    simp [scalars type declared] at other
  · have other : ∃ type ∈ request.declaredTypes, type.isScalar = false := by simpa using scalars
    rw [if_neg scalars]
    by_cases own : path = "sync"
    · rw [own, if_pos ⟨rfl, other⟩, List.count_singleton_self]
    · rw [if_neg fun both => own both.1, List.count_eq_zero]
      exact fun listed => own (List.mem_singleton.mp listed)

/-- **Only `sync` can be imported twice**: a file that declares a type that is no
scalar imports it for its parallel maps, whether or not the request asks for it as
well.  In all other files no two import lines are the same. -/
theorem import_lines_distinct_iff (request : Request) (valid : request.validate = .ok ())
    (types : ∀ name ∈ request.types, '\n' ∉ (Text.trim name).toList)
    (imports : ∀ path ∈ request.imports, '\n' ∉ (Text.trim path).toList) :
    ∃ file, request.generate = .ok file ∧
      (∀ path ≠ "sync", (Text.lines file.text).count (SourceFile.importText path) ≤ 1) ∧
      ((∀ path, (Text.lines file.text).count (SourceFile.importText path) ≤ 1) ↔
        ¬ ("sync" ∈ request.imports.map Text.trim ∧
          ∃ type ∈ request.declaredTypes, type.isScalar = false)) := by
  have declared : ∀ type ∈ request.declaredTypes, '\n' ∉ type.name.toList := by
    intro type declared
    obtain ⟨name, given, spelled, -⟩ := DeclaredType.mem_ofNames declared
    rw [spelled]
    exact types name given
  refine ⟨⟨request.generatedText⟩, by rw [generate_eq, valid], ?_, ?_⟩
  · intro path other
    rw [count_importText valid declared imports, count_ownImports, if_neg fun own => other own.1,
      Nat.zero_add]
    exact request.count_distinct_le path
  · have asked : (Text.distinct request.imports).count "sync" = 0 ↔
        "sync" ∉ request.imports.map Text.trim := by
      rw [List.count_eq_zero, Text.mem_distinct]
    have asked_le := request.count_distinct_le "sync"
    constructor
    · rintro once ⟨given, other⟩
      have twice := once "sync"
      rw [count_importText valid declared imports, count_ownImports, if_pos ⟨rfl, other⟩] at twice
      exact asked.mp (by omega) given
    · intro apart path
      rw [count_importText valid declared imports, count_ownImports]
      have path_le := request.count_distinct_le path
      split
      · rename_i own
        obtain ⟨rfl, other⟩ := own
        have none_ := asked.mpr fun given => apart ⟨given, other⟩
        omega
      · omega

/-- Repeated paths are imported once, in front of functions that need `sync`. -/
theorem import_lines_distinct_repeated_paths :
    let request : Request := ⟨"hr", ["models.Employee", "int"], [" a/b", "fmt", "a/b "], .exact⟩
    request.validate = .ok () ∧
    (∀ name ∈ request.types, '\n' ∉ (Text.trim name).toList) ∧
    (∀ path ∈ request.imports, '\n' ∉ (Text.trim path).toList) ∧
    ∃ file, request.generate = .ok file ∧
      (∀ path ≠ "sync", (Text.lines file.text).count (SourceFile.importText path) ≤ 1) ∧
      ((∀ path, (Text.lines file.text).count (SourceFile.importText path) ≤ 1) ↔
        ¬ ("sync" ∈ request.imports.map Text.trim ∧
          ∃ type ∈ request.declaredTypes, type.isScalar = false)) := by
  intro request
  have valid : request.validate = .ok () :=
    Request.validate_eq_ok _ (by decide +kernel) (by decide +kernel)
  have types : ∀ name ∈ request.types, '\n' ∉ (Text.trim name).toList := by decide +kernel
  have imports : ∀ path ∈ request.imports, '\n' ∉ (Text.trim path).toList := by decide +kernel
  exact ⟨valid, types, imports, import_lines_distinct_iff request valid types imports⟩

/-- The path of a request and the file's own one are both written. -/
theorem import_lines_sync_twice :
    ∃ file, Request.generate ⟨"p", ["T"], ["sync"], .exact⟩ = .ok file ∧
      (Text.lines file.text).count (SourceFile.importText "sync") = 2 := by
  have valid : Request.validate ⟨"p", ["T"], ["sync"], .exact⟩ = .ok () :=
    Request.validate_eq_ok _ (by decide +kernel) (by decide +kernel)
  refine ⟨⟨generatedText ⟨"p", ["T"], ["sync"], .exact⟩⟩, by rw [generate_eq, valid], ?_⟩
  rw [count_importText valid (by decide +kernel) (by decide +kernel), count_ownImports]
  decide +kernel

end Request

end ListOps
