/-
# ListOps.Proofs.SourceFile.Reading -- the declarations that a text is read to hold

Names are read off a finished text line by line.  `Declares` says of a stretch
of whole lines which names it adds, wherever it stands; stretches are put
together by `Declares.append` and `Declares.flatMap`.

The heading of a file declares what its imports declare (`declares_heading`), which
is nothing for paths that break no lines.  An operation declares its own name and
nothing else (`Operation.declares`), as long as no value breaks a line and the name
holds no bracket: its comment and its closing line start otherwise, and the lines
of its body are indented.
-/
import ListOps.Catalogue.Operation
import ListOps.Proofs.Template.Weave
import ListOps.Proofs.Text
import ListOps.SourceFile

namespace ListOps

set_option autoImplicit false

open SourceFile

/-! ## Cutting at a separator -/

namespace Chars

variable {separator : Char}

theorem cut?_append {front : List Char} (absent : separator ∉ front)
    (rest : List Char) : cut? separator (front ++ separator :: rest) = some (front, rest) := by
  induction front with
  | nil => simp [cut?]
  | cons c front ih =>
    have other : c ≠ separator := (List.ne_of_not_mem_cons absent).symm
    have later : separator ∉ front := List.not_mem_of_not_mem_cons absent
    rw [List.cons_append, cut?, if_neg other, ih later]
    rfl

theorem after?_append (start rest : List Char) : after? start (start ++ rest) = some rest := by
  induction start with
  | nil => rfl
  | cons c start ih => rw [List.cons_append, after?, if_pos rfl, ih]

/-- Another character at the end stands behind the separator, if there is one. -/
theorem cut?_concat {last : Char} (other : last ≠ separator) (cs : List Char) :
    cut? separator (cs ++ [last]) =
      (cut? separator cs).map fun pieces => (pieces.1, pieces.2 ++ [last]) := by
  induction cs with
  | nil => simp [cut?, other]
  | cons c rest ih =>
    rw [List.cons_append, cut?, cut?]
    split
    · rfl
    · rw [ih, Option.map_map, Option.map_map]
      rfl

theorem after?_concat {start : List Char} {last : Char} (other : last ∉ start) (cs : List Char) :
    after? start (cs ++ [last]) = (after? start cs).map (· ++ [last]) := by
  induction start generalizing cs with
  | nil => rfl
  | cons s start ih =>
    rw [List.mem_cons, not_or] at other
    cases cs with
    | nil => rw [List.nil_append, after?, if_neg (Ne.symm other.1), after?, Option.map_none]
    | cons c rest =>
      rw [List.cons_append, after?, after?]
      split
      · exact ih other.2 rest
      · rfl

/-- A line is what it is without a carriage return, or has one more at its end. -/
theorem dropReturn_cases (line : List Char) :
    dropReturn line = line ∨ line = dropReturn line ++ ['\r'] := by
  unfold dropReturn
  split
  · rename_i ended
    obtain ⟨front, rfl⟩ := List.getLast?_eq_some_iff.mp ended
    exact .inr (by rw [List.dropLast_concat])
  · exact .inl rfl

end Chars

/-! ## One line -/

/-- What a line that declares a function starts with. -/
def keyword : List Char :=
  ['f', 'u', 'n', 'c', ' ']

theorem declaredName?_ofList (line : List Char) :
    declaredName? (String.ofList line) =
      ((Chars.after? keyword line).bind (Chars.cut? '(')).map fun pieces =>
        String.ofList pieces.1 := by
  have start : "func ".toList = keyword := rfl
  simp only [declaredName?, Text.after?, String.toList_ofList, start]
  cases Chars.after? keyword line with
  | none => rfl
  | some rest =>
    simp only [Option.map_some, Option.bind_eq_bind, Option.bind_some, Text.cut?,
      String.toList_ofList, Option.map_map]
    rfl

theorem declaredName?_declaration {name : List Char} (noBracket : '(' ∉ name) (rest : List Char) :
    declaredName? (String.ofList (keyword ++ (name ++ '(' :: rest))) =
      some (String.ofList name) := by
  rw [declaredName?_ofList, Chars.after?_append, Option.bind_some, Chars.cut?_append noBracket]
  rfl

/-- A line with another first letter declares nothing. -/
theorem declaredName?_of_head? {line : List Char} (other : line.head? ≠ some 'f') :
    declaredName? (String.ofList line) = none := by
  have absent : Chars.after? keyword line = none := by
    cases line with
    | nil => rfl
    | cons c rest =>
      have different : 'f' ≠ c := by
        rintro rfl
        exact other rfl
      rw [keyword, Chars.after?, if_neg different]
  rw [declaredName?_ofList, absent]
  rfl

theorem declaredName?_empty : declaredName? "" = none :=
  @declaredName?_of_head? [] (by simp)

/-- What stands at the end of a line is no part of a name. -/
theorem declaredName?_dropReturn (line : List Char) :
    declaredName? (String.ofList (Chars.dropReturn line)) = declaredName? (String.ofList line) := by
  rcases Chars.dropReturn_cases line with same | ended
  · rw [same]
  · have whole : declaredName? (String.ofList line) =
        declaredName? (String.ofList (Chars.dropReturn line ++ ['\r'])) := by rw [← ended]
    rw [whole, declaredName?_ofList, declaredName?_ofList, Chars.after?_concat (by decide)]
    cases Chars.after? keyword (Chars.dropReturn line) with
    | none => rfl
    | some rest =>
      rw [Option.map_some, Option.bind_some, Option.bind_some, Chars.cut?_concat (by decide),
        Option.map_map]
      rfl

/-! ## Stretches of lines -/

/-- The names that the lines of a text declare. -/
def declaredNames (cs : List Char) : List String :=
  (Chars.splitOn '\n' cs).filterMap fun line => declaredName? (String.ofList line)

theorem declaredNames_line {line : List Char} (whole : '\n' ∉ line) (rest : List Char) :
    declaredNames (line ++ '\n' :: rest) =
      (declaredName? (String.ofList line)).toList ++ declaredNames rest := by
  rw [declaredNames, Chars.splitOn_append whole, List.filterMap_cons]
  cases declaredName? (String.ofList line) <;> rfl

/-- Names can be read off the pieces between line feeds. -/
theorem filterMap_linesOfPieces (pieces : List (List Char)) :
    (Chars.linesOfPieces pieces).filterMap (fun line => declaredName? (String.ofList line)) =
      pieces.filterMap fun line => declaredName? (String.ofList line) := by
  fun_induction Chars.linesOfPieces with
  | case1 => rfl
  | case2 last empty =>
    rw [List.isEmpty_iff.mp empty]
    simp [declaredName?_empty]
  | case3 => rfl
  | case4 piece rest _ ih =>
    rw [List.filterMap_cons, List.filterMap_cons, declaredName?_dropReturn, ih]

theorem functionNames_eq (file : SourceFile) :
    file.functionNames = declaredNames file.text.toList := by
  rw [functionNames, Text.lines, List.filterMap_map]
  exact filterMap_linesOfPieces _

/-- These whole lines declare `names`, whatever stands behind them. -/
def Declares (cs : List Char) (names : List String) : Prop :=
  ∀ rest, declaredNames (cs ++ rest) = names ++ declaredNames rest

namespace Declares

variable {α : Type} {cs cs' : List Char} {names names' : List String}

theorem nil : Declares [] [] :=
  fun _ => rfl

theorem append (first : Declares cs names) (second : Declares cs' names') :
    Declares (cs ++ cs') (names ++ names') := by
  intro rest
  rw [List.append_assoc, first, second, List.append_assoc]

theorem flatMap {entries : List α} {text : α → List Char} {names : α → List String}
    (each : ∀ entry ∈ entries, Declares (text entry) (names entry)) :
    Declares (entries.flatMap text) (entries.flatMap names) := by
  induction entries with
  | nil => exact nil
  | cons entry rest ih =>
    exact append (each entry (by simp)) (ih fun later member => each later (by simp [member]))

theorem line {line : List Char} (whole : '\n' ∉ line) :
    Declares (line ++ ['\n']) (declaredName? (String.ofList line)).toList := by
  intro rest
  rw [List.append_assoc]
  exact declaredNames_line whole rest

/-- A line that starts otherwise declares nothing. -/
theorem quiet_line {line : List Char} (whole : '\n' ∉ line) (other : line.head? ≠ some 'f') :
    Declares (line ++ ['\n']) [] := by
  have read := Declares.line whole
  rwa [declaredName?_of_head? other] at read

theorem quiet {lines : List (List Char)} (whole : ∀ line ∈ lines, '\n' ∉ line)
    (other : ∀ line ∈ lines, line.head? ≠ some 'f') :
    Declares (lines.flatMap (· ++ ['\n'])) [] := by
  have all := flatMap fun text member => quiet_line (whole text member) (other text member)
  rwa [List.flatMap_eq_nil_iff.mpr fun _ _ => rfl] at all

/-- A whole file. -/
theorem functionNames_eq {file : SourceFile} (read : Declares file.text.toList names) :
    file.functionNames = names := by
  have whole := read []
  have nothing : declaredNames [] = [] := by
    simp [declaredNames, Chars.splitOn, Chars.splitFrom, declaredName?_empty]
  rwa [List.append_nil, nothing, List.append_nil, ← ListOps.functionNames_eq] at whole

end Declares

/-! ## Headings -/

theorem Line.indent_outermost (text : String) : Line.indent ⟨0, text⟩ = [] := by
  simp [Line.indent]

theorem declares_quiet {texts : List String} (whole : ∀ text ∈ texts, '\n' ∉ text.toList)
    (other : ∀ text ∈ texts, text.toList.head? ≠ some 'f') :
    Declares (Code.text (texts.flatMap Code.line)).toList [] := by
  have read : Declares ((texts.map String.toList).flatMap (· ++ ['\n'])) [] :=
    .quiet (by simpa using whole) (by simpa using other)
  rw [Code.toList_text]
  simpa [List.flatMap_assoc, List.flatMap_map, Code.line, Line.indent_outermost] using read

theorem declares_importLine {path : String} (whole : '\n' ∉ path.toList) :
    Declares (Code.text (importLine path)).toList [] := by
  have read : Declares (Code.text (["import \"" ++ path ++ "\""].flatMap Code.line)).toList [] :=
    declares_quiet (by simpa using whole) (by simp)
  simpa [importLine] using read

/-- A heading declares what its imports declare. -/
theorem declares_heading {package : String} {imports : List String} {names : String → List String}
    (packageWhole : '\n' ∉ package.toList)
    (each : ∀ path ∈ imports, Declares (Code.text (importLine path)).toList (names path)) :
    Declares (heading package imports).toList (imports.flatMap names) := by
  have noticeWoven : Woven [] notice := .plain (by decide)
  have start :
      Declares (Code.text ([notice, "package " ++ package].flatMap Code.line)).toList [] := by
    apply declares_quiet
    · simp [packageWhole, noticeWoven.newline_not_mem]
    · simp [notice]
  have blank : Declares (Code.text ([""].flatMap Code.line)).toList [] :=
    declares_quiet (by simp) (by simp)
  have read := (start.append (.flatMap each)).append blank
  simpa [heading, Code.toList_text, Code.blank, List.flatMap_assoc] using read

/-! ## Lines with their values -/

/-- A line as it is printed with its values. -/
def Line.filled (value : Placeholder → String) (line : Line) : List Char :=
  line.indent ++ fill value line.text.toList

section

variable {value : Placeholder → String}

theorem fill_text_eq_filled (code : Code) :
    fill value code.text.toList = (code.map (Line.filled value)).flatMap (· ++ ['\n']) := by
  simp [fill_text, Line.filled, List.flatMap_map]

theorem Line.filled_outermost (text : String) :
    Line.filled value ⟨0, text⟩ = fill value text.toList := by
  simp [Line.filled, Line.indent]

theorem Line.head?_filled_of_deep {line : Line} (deep : line.depth ≠ 0) {c : Char}
    (noTab : c ≠ '\t') : (line.filled value).head? ≠ some c := by
  obtain ⟨depth, text⟩ := line
  obtain ⟨depth, rfl⟩ := Nat.exists_eq_succ_of_ne_zero deep
  unfold Line.filled Line.indent
  split
  · rename_i blank
    cases blank
    simp [fill_of_tokenFree value Segment.tokenFree_nil]
  · simp [List.replicate_succ, noTab.symm]

theorem depth_ne_zero_of_mem_inner {parts : List Code} {line : Line}
    (inside : line ∈ Code.inner parts) : line.depth ≠ 0 := by
  obtain ⟨outer, -, rfl⟩ := List.mem_map.mp inside
  exact Nat.succ_ne_zero outer.depth

variable {allowed : List Placeholder}

theorem Line.newline_not_mem_filled (values : ∀ placeholder, '\n' ∉ (value placeholder).toList)
    {line : Line} (woven : Woven allowed line.text) : '\n' ∉ line.filled value := by
  unfold Line.filled Line.indent
  rw [List.mem_append, not_or]
  constructor
  · split <;> simp [List.mem_replicate]
  · intro inside
    rcases mem_fill value inside with within | ⟨placeholder, within⟩
    · exact woven.newline_not_mem within
    · exact values placeholder within

end

/-! ## Operations -/

namespace Operation

variable (operation : Operation)

def commentLine : Line :=
  ⟨0, "// " ++ operation.name ++ " " ++ operation.summary⟩

def headLine : Line :=
  ⟨0, "func " ++ operation.name ++ "(" ++ operation.parameters ++ ") " ++ operation.result ++
    " \x7b"⟩

/-- The lines behind the head. -/
def bodyLines : Code :=
  Code.inner operation.body ++ Code.line ("\x7d" ++ "")

theorem code_eq : operation.code =
    operation.commentLine :: operation.headLine :: operation.bodyLines := by
  simp [code, commentLine, headLine, bodyLines, Code.block, Code.blockThen, Code.line]

variable {operation} (value : Placeholder → String)

theorem head?_filled_commentLine : (operation.commentLine.filled value).head? = some '/' := by
  have start : operation.commentLine.text.toList =
      ['/'] ++ ("/ " ++ operation.name ++ " " ++ operation.summary).toList := by
    simp [commentLine, String.toList_append]
  have filled := (congrArg (fill value) start).trans (fill_append_of_isPlain value (by decide) _)
  rw [commentLine, Line.filled_outermost]
  exact congrArg List.head? filled

theorem filled_headLine (plain : isPlain operation.verb.toList = true) :
    ∃ rest, operation.headLine.filled value =
      keyword ++ (operation.verb.toList ++ fill value operation.suffix.toList ++ '(' :: rest) := by
  have start : operation.headLine.text.toList =
      keyword ++ ((operation.verb.toList ++ operation.suffix.toList) ++
        '(' :: (operation.parameters ++ ") " ++ operation.result ++ " \x7b").toList) := by
    simp [headLine, String.toList_append, name, keyword]
  refine ⟨fill value (operation.parameters ++ ") " ++ operation.result ++ " \x7b").toList, ?_⟩
  rw [headLine, Line.filled_outermost]
  refine (congrArg (fill value) start).trans ?_
  rw [fill_append_of_isPlain value (by decide), fill_append_break value (by decide),
    fill_append_of_isPlain value plain]

theorem head?_filled_headLine : (operation.headLine.filled value).head? = some 'f' := by
  have start : operation.headLine.text.toList = ['f'] ++ ("unc " ++ operation.name ++ "(" ++
      operation.parameters ++ ") " ++ operation.result ++ " \x7b").toList := by
    simp [headLine, String.toList_append]
  have filled := (congrArg (fill value) start).trans (fill_append_of_isPlain value (by decide) _)
  rw [headLine, Line.filled_outermost]
  exact congrArg List.head? filled

theorem head?_filled_of_mem_bodyLines {line : Line} (inside : line ∈ operation.bodyLines)
    {c : Char} (noTab : c ≠ '\t') (noBrace : c ≠ '}') : (line.filled value).head? ≠ some c := by
  rcases List.mem_append.mp inside with inner | last
  · exact Line.head?_filled_of_deep (depth_ne_zero_of_mem_inner inner) noTab
  · rw [List.mem_singleton.mp last, Line.filled_outermost]
    have closing : ("\x7d" ++ "").toList = ['}'] ++ [] := by decide
    rw [closing, fill_append_of_isPlain value (by decide)]
    simp [noBrace.symm]

/-- **An operation declares its own name** and nothing else. -/
theorem declares {allowed : List Placeholder} {value : Placeholder → String}
    (woven : Code.Woven allowed operation.code)
    (values : ∀ placeholder, '\n' ∉ (value placeholder).toList)
    (plain : isPlain operation.verb.toList = true)
    (noBracket : '(' ∉ operation.verb.toList ++ fill value operation.suffix.toList) :
    Declares (fill value operation.code.text.toList)
      [String.ofList (operation.verb.toList ++ fill value operation.suffix.toList)] := by
  have whole : ∀ line ∈ operation.code, '\n' ∉ line.filled value := fun line member =>
    Line.newline_not_mem_filled values (woven line member)
  rw [code_eq] at whole
  simp only [List.forall_mem_cons] at whole
  obtain ⟨commentWhole, headWhole, bodyWhole⟩ := whole
  have comment : Declares (operation.commentLine.filled value ++ ['\n']) [] := by
    refine .quiet_line commentWhole ?_
    rw [head?_filled_commentLine]
    decide
  have head : Declares (operation.headLine.filled value ++ ['\n'])
      [String.ofList (operation.verb.toList ++ fill value operation.suffix.toList)] := by
    have declared := Declares.line headWhole
    obtain ⟨rest, start⟩ := filled_headLine value plain
    rwa [start, declaredName?_declaration noBracket, ← start] at declared
  have body :
      Declares ((operation.bodyLines.map (Line.filled value)).flatMap (· ++ ['\n'])) [] := by
    apply Declares.quiet
    · simpa using bodyWhole
    · simpa using fun line member =>
        head?_filled_of_mem_bodyLines value member (c := 'f') (by decide) (by decide)
  rw [fill_text_eq_filled, code_eq]
  exact comment.append (head.append body)

end Operation

end ListOps
