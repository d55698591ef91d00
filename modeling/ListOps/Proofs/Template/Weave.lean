/-
# ListOps.Proofs.Template.Weave -- code put together of plain texts and tokens

A body is never looked at character by character here.  Code is put together of
literals and tokens, and `Woven` keeps to that: a literal is plain if it holds no
line feed and no bracket in front of a capital, and does not end in a bracket,
so no token can begin in it, whatever follows.

Reading goes along with the pieces of woven texts (`Woven.collect_append`) and
with the lines of code (`collect_text`).  So the tokens of woven code are those
it was woven with (`Code.Woven.tokenNames_text`), and filling in values is done
line by line (`fill_text`).
-/
import ListOps.Proofs.Template.Substitution

namespace ListOps

set_option autoImplicit false

open Segment

/-! ## Plain texts -/

/-- Can no token begin in the text, whatever follows it, and does it stay on one
line? -/
def isPlain : List Char → Bool
  | [] => true
  | c :: rest =>
      (if c = '<' then rest.head?.any fun d => !isCapital d else c != '\n') && isPlain rest

theorem isPlain_of_cons {c : Char} {rest : List Char} (plain : isPlain (c :: rest) = true) :
    isPlain rest = true := by
  simp only [isPlain, Bool.and_eq_true] at plain
  exact plain.2

theorem readToken?_of_isPlain {c : Char} {rest : List Char} (plain : isPlain (c :: rest) = true)
    (behind : List Char) : readToken? (c :: rest ++ behind) = none := by
  by_cases bracket : c = '<'
  · subst bracket
    cases rest with
    | nil => simp [isPlain] at plain
    | cons d rest => simp_all [isPlain, readToken?]
  · exact readToken?_of_ne_bracket bracket (rest ++ behind)

theorem tokenFree_append_of_isPlain {cs behind : List Char} (plain : isPlain cs = true)
    (free : TokenFree behind) : TokenFree (cs ++ behind) := by
  induction cs with
  | nil => exact free
  | cons c rest ih =>
    exact tokenFree_cons_iff.mpr ⟨readToken?_of_isPlain plain behind, ih (isPlain_of_cons plain)⟩

theorem newline_not_mem_of_isPlain {cs : List Char} (plain : isPlain cs = true) : '\n' ∉ cs := by
  induction cs with
  | nil => simp
  | cons c rest ih =>
    have later := ih (isPlain_of_cons plain)
    simp only [isPlain, Bool.and_eq_true] at plain
    rw [List.mem_cons, not_or]
    refine ⟨?_, later⟩
    rintro rfl
    simp at plain

section

variable {β : Type} (ofChar : Char → List β) (ofToken : String → List β)

theorem collect_append_of_isPlain {cs : List Char} (plain : isPlain cs = true)
    (behind : List Char) :
    collect ofChar ofToken (cs ++ behind) = cs.flatMap ofChar ++ collect ofChar ofToken behind := by
  induction behind using body_induction with
  | free behind free =>
    rw [collect_of_tokenFree _ _ (tokenFree_append_of_isPlain plain free),
      collect_of_tokenFree _ _ free, List.flatMap_append]
  | token front name behind free named ih =>
    have whole := collect_append_token ofChar ofToken (tokenFree_append_of_isPlain plain free)
      named behind
    rw [List.append_assoc] at whole
    rw [whole, collect_append_token _ _ free named]
    simp

theorem collect_token_append (placeholder : Placeholder) (behind : List Char) :
    collect ofChar ofToken (placeholder.token.toList ++ behind) =
      ofToken placeholder.name ++ collect ofChar ofToken behind := by
  have read :=
    collect_append_token ofChar ofToken tokenFree_nil (isTokenName_name placeholder) behind
  simpa [toList_token] using read

end

/-! ## Woven texts -/

/-- A text put together of plain texts and of tokens for `allowed` placeholders. -/
inductive Woven (allowed : List Placeholder) : String → Prop
  | plain {cs : List Char} (plain : isPlain cs = true) : Woven allowed (String.ofList cs)
  | token {placeholder : Placeholder} (inside : placeholder ∈ allowed) :
      Woven allowed placeholder.token
  | append {s t : String} (first : Woven allowed s) (second : Woven allowed t) :
      Woven allowed (s ++ t)

namespace Woven

variable {allowed : List Placeholder} {s : String}

/-- Reading a woven text leaves nothing open for what follows. -/
theorem collect_append {β : Type} (woven : Woven allowed s) (ofChar : Char → List β)
    (ofToken : String → List β) (behind : List Char) :
    collect ofChar ofToken (s.toList ++ behind) =
      collect ofChar ofToken s.toList ++ collect ofChar ofToken behind := by
  induction woven generalizing behind with
  | @plain cs plain =>
    have alone := collect_append_of_isPlain ofChar ofToken plain []
    rw [List.append_nil, collect_of_tokenFree _ _ tokenFree_nil] at alone
    rw [String.toList_ofList, collect_append_of_isPlain _ _ plain, alone]
    simp
  | @token placeholder inside =>
    have alone := collect_token_append ofChar ofToken placeholder []
    rw [List.append_nil, collect_of_tokenFree _ _ tokenFree_nil] at alone
    rw [collect_token_append, alone]
    simp
  | append first second ihFirst ihSecond =>
    rw [String.toList_append, List.append_assoc, ihFirst, ihSecond, ihFirst, List.append_assoc]

theorem tokenNames_subset (woven : Woven allowed s) :
    ∀ name ∈ tokenNames s.toList, ∃ placeholder ∈ allowed, placeholder.name = name := by
  induction woven with
  | @plain cs plain =>
    have read := collect_append_of_isPlain (fun _ => []) (fun name : String => [name]) plain []
    rw [List.append_nil, collect_of_tokenFree _ _ tokenFree_nil] at read
    simp [tokenNames, read]
  | @token placeholder inside =>
    have read := collect_token_append (fun _ => []) (fun name : String => [name]) placeholder []
    rw [List.append_nil, collect_of_tokenFree _ _ tokenFree_nil] at read
    simpa [tokenNames, read] using ⟨placeholder, inside, rfl⟩
  | append first second ihFirst ihSecond =>
    intro name member
    rw [String.toList_append, tokenNames, first.collect_append, List.mem_append] at member
    rcases member with inFirst | inSecond
    · exact ihFirst name inFirst
    · exact ihSecond name inSecond

/-- Woven texts stay on one line. -/
theorem newline_not_mem (woven : Woven allowed s) : '\n' ∉ s.toList := by
  induction woven with
  | plain plain => simpa using newline_not_mem_of_isPlain plain
  | @token placeholder inside =>
    rw [toList_token]
    exact not_mem_tokenText (isTokenName_name placeholder) (by decide)
  | append first second ihFirst ihSecond => simp [String.toList_append, ihFirst, ihSecond]

end Woven

/-! ## Lines of code -/

/-- What stands in front of a line. -/
def Line.indent (line : Line) : List Char :=
  if line.text = "" then [] else List.replicate line.depth '\t'

theorem Line.toList_print (line : Line) :
    line.print.toList = line.indent ++ (line.text.toList ++ ['\n']) := by
  unfold Line.print Line.indent
  split <;> simp [String.toList_append]

theorem Code.toList_text (code : Code) :
    code.text.toList = code.flatMap fun line => line.indent ++ (line.text.toList ++ ['\n']) := by
  simp [Code.text, List.flatMap_map, Line.toList_print]

section

variable {β : Type} (ofChar : Char → List β) (ofToken : String → List β)

theorem collect_indent_append (line : Line) (behind : List Char) :
    collect ofChar ofToken (line.indent ++ behind) =
      line.indent.flatMap ofChar ++ collect ofChar ofToken behind := by
  have tabs (depth : Nat) : collect ofChar ofToken (List.replicate depth '\t' ++ behind) =
      (List.replicate depth '\t').flatMap ofChar ++ collect ofChar ofToken behind := by
    induction depth with
    | zero => simp
    | succ depth ih =>
      have step := collect_append_break ofChar ofToken (c := '\t') (by decide) []
        (List.replicate depth '\t' ++ behind)
      rw [ih, collect_of_tokenFree _ _ tokenFree_nil] at step
      simpa [List.replicate_succ] using step
  unfold Line.indent
  split
  · simp
  · exact tabs line.depth

/-- Code is read line by line. -/
theorem collect_text (code : Code) :
    collect ofChar ofToken code.text.toList = code.flatMap fun line =>
      line.indent.flatMap ofChar ++ (collect ofChar ofToken line.text.toList ++ ofChar '\n') := by
  rw [Code.toList_text]
  induction code with
  | nil => exact collect_of_tokenFree _ _ tokenFree_nil
  | cons line rest ih =>
    simp only [List.flatMap_cons, List.append_assoc, List.singleton_append]
    rw [collect_indent_append, collect_append_break _ _ (by decide), ih]

end

theorem tokenNames_text (code : Code) :
    tokenNames code.text.toList = code.flatMap fun line => tokenNames line.text.toList := by
  simp only [tokenNames, collect_text, List.append_nil]
  congr
  funext line
  simp

theorem fill_text (value : Placeholder → String) (code : Code) :
    fill value code.text.toList = code.flatMap fun line =>
      line.indent ++ (fill value line.text.toList ++ ['\n']) := by
  simp [fill, collect_text]

section

variable (value : Placeholder → String)

theorem fill_append_of_isPlain {cs : List Char} (plain : isPlain cs = true) (behind : List Char) :
    fill value (cs ++ behind) = cs ++ fill value behind := by
  simp [fill, collect_append_of_isPlain _ _ plain]

theorem fill_token_append (placeholder : Placeholder) (behind : List Char) :
    fill value (placeholder.token.toList ++ behind) =
      (value placeholder).toList ++ fill value behind := by
  simp [fill, collect_token_append, written_name]

theorem fill_token (placeholder : Placeholder) :
    fill value placeholder.token.toList = (value placeholder).toList := by
  have read := fill_token_append value placeholder []
  rwa [List.append_nil, fill_of_tokenFree value tokenFree_nil, List.append_nil] at read

theorem fill_tokens (first second : Placeholder) :
    fill value (first.token ++ second.token).toList = (value first ++ value second).toList := by
  rw [String.toList_append, fill_token_append, fill_token, String.toList_append]

end

/-! ## Woven code -/

namespace Code

variable {allowed : List Placeholder}

/-- All lines of the code are woven. -/
def Woven (allowed : List Placeholder) (code : Code) : Prop :=
  ∀ line ∈ code, ListOps.Woven allowed line.text

@[simp] theorem woven_line_iff {text : String} :
    Woven allowed (line text) ↔ ListOps.Woven allowed text := by
  simp [Woven, line]

@[simp] theorem woven_blank : Woven allowed blank :=
  woven_line_iff.mpr (.plain rfl)

@[simp] theorem woven_append_iff {first second : Code} :
    Woven allowed (first ++ second) ↔ Woven allowed first ∧ Woven allowed second := by
  simp [Woven, or_imp, forall_and]

@[simp] theorem woven_inner_iff {parts : List Code} :
    Woven allowed (inner parts) ↔ ∀ part ∈ parts, Woven allowed part := by
  constructor
  · intro woven part inside line member
    exact woven line.deeper
      (List.mem_map.mpr ⟨line, List.mem_flatten.mpr ⟨part, inside, member⟩, rfl⟩)
  · intro woven line member
    obtain ⟨outer, inside, rfl⟩ := List.mem_map.mp member
    obtain ⟨part, inParts, inPart⟩ := List.mem_flatten.mp inside
    exact woven part inParts outer inPart

/-- The tokens of woven code are those it was woven with. -/
theorem Woven.tokenNames_text {code : Code} (woven : Woven allowed code) :
    ∀ name ∈ tokenNames code.text.toList, ∃ placeholder ∈ allowed, placeholder.name = name := by
  intro name member
  rw [ListOps.tokenNames_text] at member
  obtain ⟨line, inside, inLine⟩ := List.mem_flatMap.mp member
  exact (woven line inside).tokenNames_subset name inLine

/-- Woven code is filled in with the values of its own placeholders only. -/
theorem Woven.fill_congr {code : Code} (woven : Woven allowed code)
    {value value' : Placeholder → String}
    (same : ∀ placeholder ∈ allowed, value placeholder = value' placeholder) :
    fill value code.text.toList = fill value' code.text.toList := by
  refine ListOps.fill_congr value fun name member => ?_
  obtain ⟨placeholder, inside, rfl⟩ := woven.tokenNames_text name member
  rw [written_name, written_name, same placeholder inside]

end Code

end ListOps
