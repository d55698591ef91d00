/-
# ListOps.Proofs.Template.Substitution -- rendering is simultaneous substitution

What a reader wants to know of a body is read off its characters and tokens in
turn: `collect` does so, and it goes along with the tokens of the body
(`collect_append_token`) and with every character that no token can hold
(`collect_append_break`), so that bodies are treated line by line.  Two things
are read off this way: the names of the tokens (`tokenNames`), and the body with
every token replaced by its value (`fill`).

If every token of a body is one that its family may use and has a value, then
rendering gives the filled body (`render_eq_fill`).  `render_interleaved` says
what that is: texts and tokens by turns become texts and values by turns.
Values are never read for tokens, so nothing is asked of them.
-/
import ListOps.Catalogue.Operation
import ListOps.Proofs.Template.Token
import ListOps.Proofs.Traversal

namespace ListOps

set_option autoImplicit false

open Segment

/-! ## Reading off characters and tokens -/

section

variable {β : Type} (ofChar : Char → List β) (ofToken : String → List β)

def Segment.collect : Segment → List β
  | .text run => run.toList.flatMap ofChar
  | .token name _ => ofToken name

/-- What is read off a body, from each of its characters and tokens in turn. -/
def collect (cs : List Char) : List β :=
  (Cursor.segments ⟨0, cs⟩).flatMap (Segment.collect ofChar ofToken)

theorem flatMap_collect_textRun (cs : List Char) :
    (Cursor.textRun cs).flatMap (Segment.collect ofChar ofToken) = cs.flatMap ofChar := by
  unfold Cursor.textRun
  split <;> simp_all [Segment.collect]

/-- Where the reading starts is of no account. -/
theorem flatMap_collect_segments (cs : List Char) (start : Nat) :
    (Cursor.segments ⟨start, cs⟩).flatMap (Segment.collect ofChar ofToken) =
      collect ofChar ofToken cs := by
  unfold collect
  induction cs using body_induction generalizing start with
  | free cs free => simp only [Cursor.segments_of_tokenFree free]
  | token front name behind free named ih =>
    simp only [Cursor.segments_append_token free named, List.flatMap_append, List.flatMap_cons,
      Segment.collect]
    rw [ih, ← ih (0 + byteLength front + byteLength (tokenText name))]

theorem collect_of_tokenFree {cs : List Char} (free : TokenFree cs) :
    collect ofChar ofToken cs = cs.flatMap ofChar := by
  rw [collect, Cursor.segments_of_tokenFree free, flatMap_collect_textRun]

theorem collect_append_token {front name : List Char} (free : TokenFree front)
    (named : IsTokenName name) (behind : List Char) :
    collect ofChar ofToken (front ++ (tokenText name ++ behind)) =
      front.flatMap ofChar ++ (ofToken (String.ofList name) ++ collect ofChar ofToken behind) := by
  rw [collect, Cursor.segments_append_token free named, List.flatMap_append, List.flatMap_cons,
    flatMap_collect_textRun, flatMap_collect_segments]
  rfl

end

/-- May `c` stand in a token? -/
def isTokenChar (c : Char) : Bool :=
  isNameChar c || c == '<' || c == '>'

theorem not_mem_tokenText {name : List Char} {c : Char} (named : IsTokenName name)
    (outside : isTokenChar c = false) : c ∉ tokenText name := by
  simp only [isTokenChar, Bool.or_eq_false_iff, beq_eq_false_iff_ne] at outside
  obtain ⟨⟨noName, noOpening⟩, noClosing⟩ := outside
  simp [tokenText, noOpening, noClosing, not_mem_of_isTokenName named noName]

/-- A character that no token holds keeps the texts on its sides apart. -/
theorem tokenFree_append_break {front behind : List Char} {c : Char} (free : TokenFree front)
    (free' : TokenFree behind) (outside : isTokenChar c = false) :
    TokenFree (front ++ c :: behind) := by
  intro before name after named same
  rcases List.append_eq_append_iff.mp same with ⟨middle, rfl, rest⟩ | ⟨middle, rfl, rest⟩
  · cases middle with
    | nil =>
      simp only [tokenText_append, List.nil_append, List.cons.injEq] at rest
      exact absurd (by simp [rest.1, tokenText]) (not_mem_tokenText named outside)
    | cons d middle =>
      simp only [List.cons_append, List.cons.injEq] at rest
      exact free' middle name after named rest.2
  · -- the token starts in front of the break, so it ends there too or holds the break
    rcases List.append_eq_append_iff.mp rest with ⟨middle', closed, -⟩ | ⟨middle', closed, rest⟩
    · exact free before name middle' named (by rw [closed])
    · cases middle' with
      | nil => exact free before name [] named (by simp [closed])
      | cons d middle' =>
        simp only [List.cons_append, List.cons.injEq] at rest
        exact not_mem_tokenText named outside (by simp [closed, rest])

section

variable {β : Type} (ofChar : Char → List β) (ofToken : String → List β)

theorem collect_append_break {c : Char} (outside : isTokenChar c = false) (cs behind : List Char) :
    collect ofChar ofToken (cs ++ c :: behind) =
      collect ofChar ofToken cs ++ (ofChar c ++ collect ofChar ofToken behind) := by
  induction cs using body_induction with
  | token front name rest free named ih =>
    rw [List.append_assoc, List.append_assoc, collect_append_token _ _ free named,
      collect_append_token _ _ free named, ih]
    simp
  | free cs free =>
    rw [collect_of_tokenFree _ _ free]
    induction behind using body_induction with
    | free behind free' =>
      rw [collect_of_tokenFree _ _ (tokenFree_append_break free free' outside),
        collect_of_tokenFree _ _ free']
      simp
    | token front name rest free' named ih =>
      have whole := collect_append_token ofChar ofToken
        (tokenFree_append_break free free' outside) named rest
      rw [collect_append_token _ _ free' named]
      simpa using whole

end

/-! ## The names of the tokens -/

/-- The names of the tokens of a body, in order. -/
def tokenNames (cs : List Char) : List String :=
  collect (fun _ => []) (fun name => [name]) cs

theorem tokenNames_of_tokenFree {cs : List Char} (free : TokenFree cs) : tokenNames cs = [] := by
  simp [tokenNames, collect_of_tokenFree _ _ free]

theorem tokenNames_append_token {front name : List Char} (free : TokenFree front)
    (named : IsTokenName name) (behind : List Char) :
    tokenNames (front ++ (tokenText name ++ behind)) = String.ofList name :: tokenNames behind := by
  simp only [tokenNames, collect_append_token _ _ free named]
  simp

theorem mem_tokenNames {body : String} {name : String} :
    name ∈ tokenNames body.toList ↔ ∃ offset, Segment.token name offset ∈ ofBody body := by
  simp only [tokenNames, collect, List.mem_flatMap, ofBody]
  constructor
  · rintro ⟨segment, member, read⟩
    cases segment with
    | text run => simp [Segment.collect] at read
    | token name' offset =>
      simp only [Segment.collect, List.mem_singleton] at read
      exact ⟨offset, read ▸ member⟩
  · rintro ⟨offset, member⟩
    exact ⟨_, member, by simp [Segment.collect]⟩

/-! ## Filling in values -/

/-- What stands in the place of the token called `name`.  A token that belongs
to no placeholder is left as it is. -/
def written (value : Placeholder → String) (name : String) : List Char :=
  match Placeholder.ofName? name with
  | some placeholder => (value placeholder).toList
  | none => tokenText name.toList

/-- The body with every token replaced by its value. -/
def fill (value : Placeholder → String) (cs : List Char) : List Char :=
  collect (fun c => [c]) (written value) cs

variable (value : Placeholder → String)

theorem fill_of_tokenFree {cs : List Char} (free : TokenFree cs) : fill value cs = cs := by
  simp [fill, collect_of_tokenFree _ _ free]

theorem fill_append_token {front name : List Char} (free : TokenFree front)
    (named : IsTokenName name) (behind : List Char) :
    fill value (front ++ (tokenText name ++ behind)) =
      front ++ (written value (String.ofList name) ++ fill value behind) := by
  simp only [fill, collect_append_token _ _ free named]
  simp

theorem fill_append_break {c : Char} (outside : isTokenChar c = false) (cs behind : List Char) :
    fill value (cs ++ c :: behind) = fill value cs ++ c :: fill value behind := by
  simp [fill, collect_append_break _ _ outside]

/-- Only what stands in the place of the body's own tokens counts. -/
theorem fill_congr {value' : Placeholder → String} {cs : List Char}
    (same : ∀ name ∈ tokenNames cs, written value name = written value' name) :
    fill value cs = fill value' cs := by
  induction cs using body_induction with
  | free cs free => rw [fill_of_tokenFree value free, fill_of_tokenFree value' free]
  | token front name behind free named ih =>
    rw [tokenNames_append_token free named, List.forall_mem_cons] at same
    rw [fill_append_token value free named, fill_append_token value' free named, same.1, ih same.2]

/-- Filling in brings in the characters of values only. -/
theorem mem_fill {c : Char} {cs : List Char} (inside : c ∈ fill value cs) :
    c ∈ cs ∨ ∃ placeholder, c ∈ (value placeholder).toList := by
  induction cs using body_induction with
  | free cs free =>
    rw [fill_of_tokenFree value free] at inside
    exact .inl inside
  | token front name behind free named ih =>
    rw [fill_append_token value free named, List.mem_append, List.mem_append] at inside
    rcases inside with before | within | after
    · exact .inl (by simp [before])
    · rw [written] at within
      split at within
      · exact .inr ⟨_, within⟩
      · rw [String.toList_ofList] at within
        exact .inl (List.mem_append_right front (List.mem_append_left behind within))
    · exact (ih after).imp_left fun after => by simp [after]

theorem isTokenName_name (placeholder : Placeholder) : IsTokenName placeholder.name.toList := by
  cases placeholder <;> decide +kernel

theorem toList_token (placeholder : Placeholder) :
    placeholder.token.toList = tokenText placeholder.name.toList := by
  simp [Placeholder.token, tokenText, String.toList_append]

theorem written_name (placeholder : Placeholder) :
    written value placeholder.name = (value placeholder).toList := by
  simp [written, Placeholder.ofName?_name]

/-! ## Rendering -/

/-- The template may use every token of its body, and `bindings` give each of
them the value that `value` names. -/
def Template.Bound (template : Template) (bindings : Bindings)
    (value : Placeholder → String) : Prop :=
  ∀ name ∈ tokenNames template.body.toList, ∃ placeholder ∈ template.family.schema,
    placeholder.name = name ∧ bindings.get? placeholder = some (value placeholder)

theorem renderSegment_eq_ok {template : Template} {bindings : Bindings}
    (bound : template.Bound bindings value) {segment : Segment}
    (member : segment ∈ template.segments) :
    template.renderSegment bindings segment =
      .ok (String.ofList (Segment.collect (fun c => [c]) (written value) segment)) := by
  cases segment with
  | text run => simp [Template.renderSegment, Segment.collect]
  | token name offset =>
    obtain ⟨placeholder, allowed, rfl, given⟩ := bound name (mem_tokenNames.mpr ⟨offset, member⟩)
    simp [Template.renderSegment, Template.resolve, Placeholder.ofName?_name, Family.allows,
      allowed, given, Segment.collect, written_name, bind, Except.bind]

/-- **Rendering fills in the values** where every token has one. -/
theorem render_eq_fill {template : Template} {bindings : Bindings}
    (bound : template.Bound bindings value) :
    template.render bindings = .ok (String.ofList (fill value template.body.toList)) := by
  rw [Template.render, mapM_eq_ok fun segment member => renderSegment_eq_ok value bound member]
  refine congrArg Except.ok (String.toList_inj.mp ?_)
  simp [fill, collect, Template.segments, ofBody, List.flatMap_map]

/-! ## Texts and placeholders by turns -/

/-- A placeholder with the text behind it. -/
structure Opening where
  placeholder : Placeholder
  text : String

/-- A text, followed by placeholders, each as `write` gives it, with their texts. -/
def interleave (write : Placeholder → String) (head : String) (openings : List Opening) : String :=
  head ++ String.join (openings.map fun opening => write opening.placeholder ++ opening.text)

/-- No token stands in `s`. -/
def HasNoToken (s : String) : Prop :=
  ∀ name offset, ¬ TokenAt s name offset

theorem hasNoToken_iff {s : String} : HasNoToken s ↔ TokenFree s.toList := by
  constructor
  · intro none_ front name behind named same
    refine none_ (String.ofList name) _ ⟨by simpa using named, String.ofList front,
      String.ofList behind, ?_, rfl⟩
    apply String.toList_inj.mp
    simpa [String.toList_append] using same
  · rintro free name offset ⟨named, front, behind, rfl, -⟩
    exact free front.toList name.toList behind.toList named (by simp [String.toList_append])

instance (s : String) : Decidable (HasNoToken s) :=
  decidable_of_iff _ hasNoToken_iff.symm

theorem toList_interleave_cons (write : Placeholder → String) (head : String) (opening : Opening)
    (rest : List Opening) :
    (interleave write head (opening :: rest)).toList =
      head.toList ++ ((write opening.placeholder).toList ++
        (interleave write opening.text rest).toList) := by
  simp [interleave, String.toList_append]

theorem fill_interleave (head : String) (openings : List Opening) (headFree : HasNoToken head)
    (textsFree : ∀ opening ∈ openings, HasNoToken opening.text) :
    fill value (interleave Placeholder.token head openings).toList =
      (interleave value head openings).toList := by
  induction openings generalizing head with
  | nil => simpa [interleave] using fill_of_tokenFree value (hasNoToken_iff.mp headFree)
  | cons opening rest ih =>
    rw [toList_interleave_cons, toList_interleave_cons, toList_token,
      fill_append_token value (hasNoToken_iff.mp headFree) (isTokenName_name _),
      String.ofList_toList, written_name,
      ih opening.text (textsFree opening (by simp)) fun later member =>
        textsFree later (by simp [member])]

theorem tokenNames_interleave (head : String) (openings : List Opening)
    (headFree : HasNoToken head) (textsFree : ∀ opening ∈ openings, HasNoToken opening.text) :
    tokenNames (interleave Placeholder.token head openings).toList =
      openings.map fun opening => opening.placeholder.name := by
  induction openings generalizing head with
  | nil => simpa [interleave] using tokenNames_of_tokenFree (hasNoToken_iff.mp headFree)
  | cons opening rest ih =>
    rw [toList_interleave_cons, toList_token,
      tokenNames_append_token (hasNoToken_iff.mp headFree) (isTokenName_name _),
      String.ofList_toList, List.map_cons,
      ih opening.text (textsFree opening (by simp)) fun later member =>
        textsFree later (by simp [member])]

/-- **Rendering is simultaneous substitution.**  Texts without tokens and
placeholders by turns are rendered as the same texts and the placeholders'
values by turns, whatever the texts end in and the values hold. -/
theorem render_interleaved (name : String) (family : Family) (head : String)
    (openings : List Opening) (bindings : Bindings) (value : Placeholder → String)
    (headFree : HasNoToken head) (textsFree : ∀ opening ∈ openings, HasNoToken opening.text)
    (allowed : ∀ opening ∈ openings, opening.placeholder ∈ family.schema)
    (bound : ∀ opening ∈ openings,
      bindings.get? opening.placeholder = some (value opening.placeholder)) :
    Template.render ⟨name, family, interleave Placeholder.token head openings⟩ bindings =
      .ok (interleave value head openings) := by
  have covered : Template.Bound ⟨name, family, interleave Placeholder.token head openings⟩
      bindings value := by
    intro token member
    rw [tokenNames_interleave head openings headFree textsFree] at member
    obtain ⟨opening, inside, rfl⟩ := List.mem_map.mp member
    exact ⟨opening.placeholder, allowed opening inside, rfl, bound opening inside⟩
  rw [render_eq_fill value covered, fill_interleave value head openings headFree textsFree,
    String.ofList_toList]

/-- Stray brackets in front of a token stay text, and so do values that look
like tokens. -/
theorem render_interleaved_stray_brackets :
    let openings : List Opening :=
      [⟨.elementType, "<A"⟩, ⟨.elementType, ""⟩, ⟨.package, "é<"⟩]
    let value : Placeholder → String := fun placeholder =>
      if placeholder = .package then "<FOO>" else "<TYPE>"
    let bindings := Bindings.ofList [(.package, "<FOO>"), (.elementType, "<TYPE>")]
    HasNoToken "<<" ∧ (∀ opening ∈ openings, HasNoToken opening.text) ∧
    (∀ opening ∈ openings, opening.placeholder ∈ Family.single.schema) ∧
    (∀ opening ∈ openings,
      bindings.get? opening.placeholder = some (value opening.placeholder)) ∧
    interleave Placeholder.token "<<" openings = "<<<TYPE><A<TYPE><PACKAGE>é<" ∧
    interleave value "<<" openings = "<<<TYPE><A<TYPE><FOO>é<" ∧
    Template.render ⟨"stray", .single, interleave Placeholder.token "<<" openings⟩ bindings =
      .ok (interleave value "<<" openings) := by
  intro openings value bindings
  have headFree : HasNoToken "<<" := by decide
  have textsFree : ∀ opening ∈ openings, HasNoToken opening.text := by decide
  have allowed : ∀ opening ∈ openings, opening.placeholder ∈ Family.single.schema := by decide
  have bound : ∀ opening ∈ openings,
      bindings.get? opening.placeholder = some (value opening.placeholder) := by decide
  exact ⟨headFree, textsFree, allowed, bound, by decide, by decide,
    render_interleaved "stray" .single "<<" openings bindings value headFree textsFree allowed
      bound⟩

end ListOps
