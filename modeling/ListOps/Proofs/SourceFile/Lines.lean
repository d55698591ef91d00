/-
# ListOps.Proofs.SourceFile.Lines -- a generated file, stretch by stretch

A generated file is written in stretches: the lines of its heading, then the
functions, one use of a template after the other.  Every stretch is `Whole`, that
is, ended by a line feed.  Whole texts keep their lines wherever they stand
(`Text.lines_append`, `Text.lines_join`), even if a name or an import path breaks
lines inside.  So the lines of a file are those of its stretches
(`Request.lines_generatedText`), and whatever is read off line by line is read
off each stretch on its own.
-/
import Mathlib.Data.List.Basic
import ListOps.Proofs.SourceFile.Reading
import ListOps.Proofs.SourceFile.Verdict

namespace ListOps

set_option autoImplicit false

/-! ## Whole texts -/

namespace Chars

theorem splitFrom_append_separator (separator : Char) (piece front rest : List Char) :
    splitFrom separator piece (front ++ separator :: rest) =
      splitFrom separator piece front ++ splitOn separator rest := by
  induction front generalizing piece with
  | nil => simp [splitFrom, splitOn]
  | cons c front ih =>
    rw [List.cons_append, splitFrom, splitFrom]
    split
    · rw [ih, List.cons_append]
    · exact ih (c :: piece)

/-- A separator ends the pieces in front of it. -/
theorem splitOn_append_separator (separator : Char) (front rest : List Char) :
    splitOn separator (front ++ separator :: rest) =
      splitOn separator front ++ splitOn separator rest :=
  splitFrom_append_separator separator [] front rest

/-- Whatever follows, a line feed ends the pieces in front. -/
theorem linesOfPieces_append (front : List (List Char)) {rest : List (List Char)}
    (nonempty : rest ≠ []) :
    linesOfPieces (front ++ rest) = front.map dropReturn ++ linesOfPieces rest := by
  induction front with
  | nil => rfl
  | cons piece front ih =>
    rw [List.cons_append, linesOfPieces, ih]
    · rfl
    · exact fun none_ => nonempty (List.append_eq_nil_iff.mp none_).2

theorem dropReturn_eq_self {line : List Char} (other : line.getLast? ≠ some '\r') :
    dropReturn line = line :=
  if_neg other

theorem head?_dropReturn_ne {line : List Char} {c : Char} (other : line.head? ≠ some c) :
    (dropReturn line).head? ≠ some c := by
  rcases dropReturn_cases line with same | ended
  · rwa [same]
  · intro starts
    rw [ended, List.head?_append, starts] at other
    exact other rfl

end Chars

/-- A line feed is the last character, if there is one. -/
def Whole (s : String) : Prop :=
  ∀ c, s.toList.getLast? = some c → c = '\n'

theorem Whole.empty_or_ended {s : String} (whole : Whole s) :
    s = "" ∨ ∃ front, s.toList = front ++ ['\n'] := by
  cases last : s.toList.getLast? with
  | none => exact .inl (String.toList_eq_nil_iff.mp (List.getLast?_eq_none_iff.mp last))
  | some c =>
    obtain ⟨front, same⟩ := List.getLast?_eq_some_iff.mp last
    exact .inr ⟨front, by rw [same, whole c last]⟩

theorem Whole.join {texts : List String} (whole : ∀ text ∈ texts, Whole text) :
    Whole (String.join texts) := by
  induction texts with
  | nil => simp [Whole]
  | cons text rest ih =>
    intro c last
    rw [String.join_cons, String.toList_append, List.getLast?_append] at last
    cases later : (String.join rest).toList.getLast? with
    | none =>
      rw [later, Option.none_or] at last
      exact whole text (by simp) c last
    | some d =>
      rw [later, Option.some_or] at last
      exact ih (fun text member => whole text (by simp [member])) c (later.trans last)

theorem whole_newline : Whole "\n" := by
  simp [Whole, eq_comm]

theorem whole_print (line : Line) : Whole line.print := by
  simp [Whole, Line.toList_print, eq_comm]

namespace Text

theorem lines_empty : lines "" = [] := rfl

theorem lines_of_ended {s : String} {front : List Char} (ended : s.toList = front ++ ['\n']) :
    lines s = ((Chars.splitOn '\n' front).map Chars.dropReturn).map String.ofList := by
  have pieces : Chars.splitOn '\n' s.toList = Chars.splitOn '\n' front ++ [[]] := by
    rw [ended]
    exact Chars.splitOn_append_separator '\n' front []
  rw [lines, pieces, Chars.linesOfPieces_append _ (List.cons_ne_nil _ _)]
  simp [Chars.linesOfPieces]

/-- A line without its end. -/
theorem lines_line {line : List Char} (unbroken : '\n' ∉ line) :
    lines (String.ofList (line ++ ['\n'])) = [String.ofList (Chars.dropReturn line)] := by
  have alone : Chars.splitOn '\n' (line ++ '\n' :: []) = Chars.splitOn '\n' line ++ [[]] :=
    Chars.splitOn_append_separator '\n' line []
  rw [Chars.splitOn_append unbroken] at alone
  have single : Chars.splitOn '\n' line = [line] := (List.append_cancel_right alone).symm
  have ended : (String.ofList (line ++ ['\n'])).toList = line ++ ['\n'] := by simp
  rw [lines_of_ended ended, single]
  rfl

/-- **Whole texts keep their lines**, whatever follows. -/
theorem lines_append {s : String} (whole : Whole s) (t : String) :
    lines (s ++ t) = lines s ++ lines t := by
  rcases whole.empty_or_ended with rfl | ⟨front, ended⟩
  · simp [lines_empty]
  · have pieces : Chars.splitOn '\n' (s ++ t).toList =
        Chars.splitOn '\n' front ++ Chars.splitOn '\n' t.toList := by
      rw [String.toList_append, ended, List.append_assoc]
      exact Chars.splitOn_append_separator '\n' front t.toList
    have nonempty : Chars.splitOn '\n' t.toList ≠ [] :=
      Chars.splitFrom_ne_nil '\n' [] t.toList
    -- what becomes of the last piece is decided behind `s`
    rw [lines_of_ended ended, lines, lines, pieces, Chars.linesOfPieces_append _ nonempty,
      List.map_append]

theorem lines_join {texts : List String} (whole : ∀ text ∈ texts, Whole text) :
    lines (String.join texts) = texts.flatMap lines := by
  induction texts with
  | nil => rfl
  | cons text rest ih =>
    rw [String.join_cons, lines_append (whole text (by simp)),
      ih fun later member => whole later (by simp [member]), List.flatMap_cons]

theorem lines_print {line : Line} (unbroken : '\n' ∉ line.text.toList) :
    lines line.print = [String.ofList (Chars.dropReturn (line.indent ++ line.text.toList))] := by
  have whole : '\n' ∉ line.indent ++ line.text.toList := by
    unfold Line.indent
    split <;> simp [unbroken, List.mem_replicate]
  have printed : line.print = String.ofList ((line.indent ++ line.text.toList) ++ ['\n']) := by
    apply String.toList_inj.mp
    rw [Line.toList_print, String.toList_ofList, List.append_assoc]
  rw [printed, lines_line whole]

end Text

/-! ## Uses of templates -/

namespace TemplateUse

/-- What one use of a template adds to a file. -/
def written (use : TemplateUse) : String :=
  String.ofList use.filled

theorem text_eq_join (uses : List TemplateUse) : text uses = String.join (uses.map written) := by
  apply String.toList_inj.mp
  simp [text, written, List.flatMap_map]

/-- Every use in a family is one of an operation. -/
theorem exists_operation {operations : List Operation} {family : Family} {bindings : List Bindings}
    {use : TemplateUse}
    (member : use ∈ every (operations.map (Operation.template family)) bindings) :
    ∃ operation ∈ operations, ∃ values ∈ bindings, use = ⟨operation.template family, values⟩ := by
  obtain ⟨values, given, inside⟩ := List.mem_flatMap.mp member
  obtain ⟨template, used, rfl⟩ := List.mem_map.mp inside
  obtain ⟨operation, offered, rfl⟩ := List.mem_map.mp used
  exact ⟨operation, offered, values, given, rfl⟩

section

variable (operation : Operation) (family : Family) (values : Bindings)

theorem written_operation :
    written ⟨operation.template family, values⟩ =
      String.join (operation.code.map fun line =>
        String.ofList (line.filled values.value ++ ['\n'])) := by
  apply String.toList_inj.mp
  rw [written, filled, String.toList_ofList, Operation.template, fill_text_eq_filled]
  simp [List.flatMap_map]

theorem whole_written : Whole (written ⟨operation.template family, values⟩) := by
  rw [written_operation]
  refine Whole.join fun text member => ?_
  obtain ⟨line, -, rfl⟩ := List.mem_map.mp member
  simp [Whole, eq_comm]

end

theorem whole_written_of_mem {operations : List Operation} {family : Family}
    {bindings : List Bindings} {use : TemplateUse}
    (member : use ∈ every (operations.map (Operation.template family)) bindings) :
    Whole use.written := by
  obtain ⟨operation, -, values, -, rfl⟩ := exists_operation member
  exact whole_written operation family values

end TemplateUse

/-! ## The stretches of a generated file -/

/-- The lines in front of the functions. -/
def SourceFile.headingCode (package : String) (imports : List String) : Code :=
  .line notice ++ .line ("package " ++ package) ++ imports.flatMap importLine ++ .blank

namespace Request

variable (request : Request)

/-- What a generated file imports for its own functions. -/
def ownImports : List String :=
  if (TemplateUse.text request.declarations.singleUses).isEmpty &&
    (TemplateUse.text request.declarations.conversionUses).isEmpty then [] else ["sync"]

/-- The lines in front of the functions of a generated file. -/
def headingCode : Code :=
  SourceFile.headingCode request.declarations.package
    (request.ownImports ++ Text.distinct request.imports)

/-- The whole texts that a generated file is written in. -/
def stretches : List String :=
  request.headingCode.map Line.print ++
    request.declarations.singleUses.map TemplateUse.written ++ ["\n"] ++
    request.declarations.conversionUses.map TemplateUse.written ++ ["\n"] ++
    request.declarations.combinationUses.map TemplateUse.written

theorem generatedText_eq_join : request.generatedText = String.join request.stretches := by
  have heading : SourceFile.heading request.declarations.package
      (request.ownImports ++ Text.distinct request.imports) =
        String.join (request.headingCode.map Line.print) := rfl
  simp only [generatedText, stretches, TemplateUse.text_eq_join, String.join_append, ← heading]
  simp [ownImports, TemplateUse.text_eq_join, String.join_cons, String.append_assoc]

variable {request} in
/-- The parts of a file declare its functions, and the blank lines between them none. -/
theorem functionNames_of_declares {imported single conversions combinations : List String}
    (heading : Declares (SourceFile.heading request.declarations.package
      (request.ownImports ++ Text.distinct request.imports)).toList imported)
    (single_ : Declares (TemplateUse.text request.declarations.singleUses).toList single)
    (conversions_ : Declares (TemplateUse.text request.declarations.conversionUses).toList
      conversions)
    (combinations_ : Declares (TemplateUse.text request.declarations.combinationUses).toList
      combinations) :
    SourceFile.functionNames ⟨request.generatedText⟩ =
      imported ++ single ++ conversions ++ combinations := by
  have blank : Declares "\n".toList [] := @Declares.quiet_line [] (by simp) (by simp)
  have whole := ((heading.append single_).append (blank.append conversions_)).append
    (blank.append combinations_)
  apply Declares.functionNames_eq
  simpa [generatedText, ownImports] using whole

theorem whole_of_mem_stretches {text : String} (member : text ∈ request.stretches) :
    Whole text := by
  simp only [stretches, List.mem_append, List.mem_map, List.mem_singleton] at member
  rcases member with
    ((((⟨line, -, rfl⟩ | ⟨use, used, rfl⟩) | rfl) | ⟨use, used, rfl⟩) | rfl) | ⟨use, used, rfl⟩
  · exact whole_print line
  · exact TemplateUse.whole_written_of_mem used
  · exact whole_newline
  · exact TemplateUse.whole_written_of_mem used
  · exact whole_newline
  · exact TemplateUse.whole_written_of_mem used

/-- **The lines of a generated file are those of its stretches.** -/
theorem lines_generatedText :
    Text.lines request.generatedText = request.stretches.flatMap Text.lines := by
  rw [generatedText_eq_join,
    Text.lines_join fun text member => request.whole_of_mem_stretches member]

end Request

end ListOps
