/-
# ListOps.Proofs.Template.Token -- where the tokens of a body stand

`TokenAt body name offset` says that the token called `name` stands in a body,
`offset` bytes behind its start, without a word about reading: the body is some
text, `<`, the name, `>` and more text.  A body in which no token stands is
`TokenFree`.

Tokens do not overlap (`opened_inside`): a name holds no bracket, so whatever
stands between an opening bracket and a later one cannot be the beginning of a
token that reaches past the later one.  Two consequences carry everything that
is proved about templates:

* every body is free of tokens, or is a free text, a token and a shorter body
  (`body_induction`);
* reading goes along with this: `segments_of_tokenFree` and
  `segments_append_token` give the segments of either kind of body.

So the token segments are the tokens that stand in the body
(`token_mem_segments_iff`), and they come in the order of their places
(`offsets_ascend`).
-/
import ListOps.Template.Segment

namespace ListOps

set_option autoImplicit false

namespace Segment

/-! ## Names and tokens -/

/-- May `name` stand between the brackets of a token?  It has to be a capital
letter and then capitals, digits and underscores. -/
def IsTokenName : List Char → Prop
  | [] => False
  | c :: rest => isCapital c = true ∧ ∀ d ∈ rest, isNameChar d = true

instance : DecidablePred IsTokenName
  | [] => .isFalse id
  | c :: rest =>
      decidable_of_iff ((isCapital c && rest.all isNameChar) = true) (by simp [IsTokenName])

/-- A token as it is written. -/
def tokenText (name : List Char) : List Char :=
  '<' :: (name ++ ['>'])

/-- No token stands in `cs`. -/
def TokenFree (cs : List Char) : Prop :=
  ∀ front name behind, IsTokenName name → cs ≠ front ++ (tokenText name ++ behind)

@[simp] theorem tokenText_append (name behind : List Char) :
    tokenText name ++ behind = '<' :: (name ++ '>' :: behind) := by
  simp [tokenText]

theorem isNameChar_of_isTokenName {name : List Char} (named : IsTokenName name) :
    ∀ d ∈ name, isNameChar d = true := by
  intro d member
  cases name with
  | nil => exact absurd member (by simp)
  | cons c rest =>
    rcases List.mem_cons.mp member with rfl | later
    · simp [isNameChar, named.1]
    · exact named.2 d later

/-- A character that may not stand in a name ends every attempt to read one. -/
theorem not_mem_of_isTokenName {name : List Char} {c : Char} (named : IsTokenName name)
    (outside : isNameChar c = false) : c ∉ name := by
  intro member
  rw [isNameChar_of_isTokenName named c member] at outside
  cases outside

theorem readToken?_tokenText {name : List Char} (named : IsTokenName name)
    (behind : List Char) : readToken? (tokenText name ++ behind) = some (name, behind) := by
  cases name with
  | nil => exact named.elim
  | cons c rest =>
    have closing : isNameChar '>' = false := by decide
    have taken : (rest ++ '>' :: behind).takeWhile isNameChar = rest := by
      simp [List.takeWhile_append_of_pos named.2, closing]
    have left : (rest ++ '>' :: behind).dropWhile isNameChar = '>' :: behind := by
      simp [List.dropWhile_append_of_pos named.2, closing]
    simp [tokenText, readToken?, named.1, taken, left]

theorem isTokenName_of_readToken? {cs name after : List Char}
    (read : readToken? cs = some (name, after)) : IsTokenName name := by
  unfold readToken? at read
  split at read
  · rename_i c rest
    split at read
    · rename_i capital
      split at read
      · simp only [Option.some.injEq, Prod.mk.injEq] at read
        obtain ⟨rfl, -⟩ := read
        exact ⟨capital, List.all_eq_true.mp List.all_takeWhile⟩
      · contradiction
    · contradiction
  · contradiction

/-- Every token begins with a bracket. -/
theorem readToken?_of_ne_bracket {c : Char} (noBracket : c ≠ '<') (rest : List Char) :
    readToken? (c :: rest) = none := by
  unfold readToken?
  split
  · rename_i bracket
    cases bracket
    exact absurd rfl noBracket
  · rfl

/-- Reading a token succeeds exactly on the texts that start with one. -/
theorem readToken?_eq_some_iff {cs name after : List Char} :
    readToken? cs = some (name, after) ↔ IsTokenName name ∧ cs = tokenText name ++ after := by
  constructor
  · intro read
    refine ⟨isTokenName_of_readToken? read, ?_⟩
    rw [eq_of_readToken? read]
    simp [tokenText]
  · rintro ⟨named, rfl⟩
    exact readToken?_tokenText named after

/-- A text is read as starting with one token only. -/
theorem tokenText_append_inj {name name' behind behind' : List Char} (named : IsTokenName name)
    (named' : IsTokenName name')
    (same : tokenText name ++ behind = tokenText name' ++ behind') :
    name = name' ∧ behind = behind' := by
  have read := readToken?_tokenText named behind
  rw [same, readToken?_tokenText named' behind'] at read
  simp only [Option.some.injEq, Prod.mk.injEq] at read
  exact ⟨read.1.symm, read.2.symm⟩

/-- **Tokens do not overlap.**  A token that starts in front of an opening
bracket ends in front of it. -/
theorem opened_inside {name behind front rest : List Char} (named : IsTokenName name)
    (nonempty : front ≠ []) (same : tokenText name ++ behind = front ++ '<' :: rest) :
    ∃ between, front = tokenText name ++ between ∧ behind = between ++ '<' :: rest := by
  obtain ⟨c, front, rfl⟩ := List.exists_cons_of_ne_nil nonempty
  simp only [tokenText, List.cons_append, List.append_assoc, List.cons.injEq] at same
  obtain ⟨rfl, same⟩ := same
  -- the bracket stands behind the name, or the name would hold it
  rcases List.append_eq_append_iff.mp same with ⟨middle, rfl, closed⟩ | ⟨middle, rfl, closed⟩
  · cases middle with
    | nil => simp at closed
    | cons d between =>
      simp only [List.nil_append, List.cons_append, List.cons.injEq] at closed
      obtain ⟨rfl, rfl⟩ := closed
      exact ⟨between, by simp [tokenText], rfl⟩
  · cases middle with
    | nil => simp at closed
    | cons d middle =>
      simp only [List.cons_append, List.cons.injEq] at closed
      obtain ⟨rfl, -⟩ := closed
      exact absurd (by simp) (not_mem_of_isTokenName named (c := '<') (by decide))

/-! ## Texts without tokens -/

@[simp] theorem tokenFree_nil : TokenFree [] := by
  intro front name behind _ same
  simp [tokenText] at same

theorem tokenFree_cons_iff {c : Char} {rest : List Char} :
    TokenFree (c :: rest) ↔ readToken? (c :: rest) = none ∧ TokenFree rest := by
  constructor
  · intro free
    refine ⟨?_, fun front name behind named same =>
      free (c :: front) name behind named (by rw [same]; rfl)⟩
    cases read : readToken? (c :: rest) with
    | none => rfl
    | some found =>
      obtain ⟨named, same⟩ := readToken?_eq_some_iff.mp read
      exact absurd same (free [] found.1 found.2 named)
  · rintro ⟨unread, free⟩ front name behind named same
    cases front with
    | nil =>
      rw [same, List.nil_append, readToken?_tokenText named] at unread
      cases unread
    | cons d front =>
      simp only [List.cons_append, List.cons.injEq] at same
      exact free front name behind named same.2

theorem tokenFree_append_of_not_mem {front cs : List Char} (absent : '<' ∉ front)
    (free : TokenFree cs) : TokenFree (front ++ cs) := by
  induction front with
  | nil => exact free
  | cons c front ih =>
    rw [List.mem_cons, not_or] at absent
    exact tokenFree_cons_iff.mpr
      ⟨readToken?_of_ne_bracket (fun bracket => absent.1 bracket.symm) _, ih absent.2⟩

theorem untilToken_of_tokenFree {cs : List Char} (free : TokenFree cs) :
    untilToken cs = (cs, []) := by
  induction cs with
  | nil => rfl
  | cons c rest ih =>
    obtain ⟨unread, later⟩ := tokenFree_cons_iff.mp free
    simp [untilToken, unread, ih later]

/-- Whatever stands in front of an opening bracket is read as if it stood alone. -/
theorem readToken?_append_bracket {c : Char} {s : List Char} (free : TokenFree (c :: s))
    (rest : List Char) : readToken? (c :: s ++ '<' :: rest) = none := by
  cases read : readToken? (c :: s ++ '<' :: rest) with
  | none => rfl
  | some found =>
    obtain ⟨named, same⟩ := readToken?_eq_some_iff.mp read
    obtain ⟨between, inside, -⟩ := opened_inside named (by simp) same.symm
    exact absurd inside (free [] found.1 between named)

theorem untilToken_append_of_not_mem {front : List Char} (absent : '<' ∉ front)
    (cs : List Char) : (untilToken (front ++ cs)).1 = front ++ (untilToken cs).1 := by
  induction front with
  | nil => rfl
  | cons c front ih =>
    rw [List.mem_cons, not_or] at absent
    have unread := readToken?_of_ne_bracket (fun bracket => absent.1 bracket.symm) (front ++ cs)
    simp [untilToken, unread, ih absent.2]

theorem untilToken_append_token {s name : List Char} (free : TokenFree s)
    (named : IsTokenName name) (behind : List Char) :
    untilToken (s ++ (tokenText name ++ behind)) = (s, tokenText name ++ behind) := by
  induction s with
  | nil =>
    have read := readToken?_tokenText named behind
    simp only [tokenText_append, List.nil_append] at read ⊢
    simp [untilToken, read]
  | cons c s ih =>
    have unread := readToken?_append_bracket free (name ++ '>' :: behind)
    have later := ih (tokenFree_cons_iff.mp free).2
    simp only [tokenText_append, List.cons_append] at unread later ⊢
    simp [untilToken, unread, later]

theorem tokenFree_iff {cs : List Char} : TokenFree cs ↔ (untilToken cs).2 = [] := by
  constructor
  · intro free
    rw [untilToken_of_tokenFree free]
  · induction cs with
    | nil => simp
    | cons c rest ih =>
      intro ended
      unfold untilToken at ended
      split at ended
      · cases ended
      · rename_i unread
        exact tokenFree_cons_iff.mpr ⟨by simpa using unread, ih ended⟩

instance (cs : List Char) : Decidable (TokenFree cs) :=
  decidable_of_iff _ tokenFree_iff.symm

/-! ## The first token -/

/-- Every body is free of tokens, or has a first one. -/
theorem tokenFree_or_first_token (cs : List Char) :
    TokenFree cs ∨ ∃ front name behind,
      TokenFree front ∧ IsTokenName name ∧ cs = front ++ (tokenText name ++ behind) := by
  induction cs with
  | nil => exact .inl tokenFree_nil
  | cons c rest ih =>
    cases read : readToken? (c :: rest) with
    | some found =>
      obtain ⟨named, same⟩ := readToken?_eq_some_iff.mp read
      exact .inr ⟨[], found.1, found.2, tokenFree_nil, named, by simpa using same⟩
    | none =>
      rcases ih with free | ⟨front, name, behind, free, named, rfl⟩
      · exact .inl (tokenFree_cons_iff.mpr ⟨read, free⟩)
      · refine .inr ⟨c :: front, name, behind, tokenFree_cons_iff.mpr ⟨?_, free⟩, named, rfl⟩
        -- a token read in the front alone would be read in the whole as well
        cases alone : readToken? (c :: front) with
        | none => rfl
        | some found =>
          obtain ⟨inside, same⟩ := readToken?_eq_some_iff.mp alone
          rw [← List.cons_append, same, List.append_assoc, readToken?_tokenText inside] at read
          cases read

/-- Induction along the tokens of a body. -/
theorem body_induction {P : List Char → Prop} (free : ∀ cs, TokenFree cs → P cs)
    (token : ∀ front name behind, TokenFree front → IsTokenName name → P behind →
      P (front ++ (tokenText name ++ behind))) (cs : List Char) : P cs := by
  induction n : cs.length using Nat.strongRecOn generalizing cs with
  | _ n ih =>
    rcases tokenFree_or_first_token cs with none_ | ⟨front, name, behind, before, named, rfl⟩
    · exact free cs none_
    · refine token front name behind before named (ih behind.length ?_ behind rfl)
      simp only [tokenText, List.length_append, List.length_cons] at n
      omega

/-- A token that stands in a body with a first one is that one, or stands
behind it. -/
theorem first_or_behind {front name behind front' name' behind' : List Char}
    (before : TokenFree front) (named : IsTokenName name) (named' : IsTokenName name')
    (same : front ++ (tokenText name ++ behind) = front' ++ (tokenText name' ++ behind')) :
    (front' = front ∧ name' = name ∧ behind' = behind) ∨
      ∃ between, front' = front ++ (tokenText name ++ between) ∧
        behind = between ++ (tokenText name' ++ behind') := by
  rcases List.append_eq_append_iff.mp same with ⟨middle, rfl, rest⟩ | ⟨middle, rfl, rest⟩
  · cases middle with
    | nil =>
      obtain ⟨rfl, rfl⟩ := tokenText_append_inj named named' (by simpa using rest)
      exact .inl ⟨by simp, rfl, rfl⟩
    | cons d middle =>
      obtain ⟨between, inside, behindEq⟩ := opened_inside named (by simp) rest
      exact .inr ⟨between, by rw [inside], behindEq⟩
  · cases middle with
    | nil =>
      obtain ⟨rfl, rfl⟩ := tokenText_append_inj named' named (by simpa using rest)
      exact .inl ⟨by simp, rfl, rfl⟩
    | cons d middle =>
      obtain ⟨between, inside, -⟩ := opened_inside named' (by simp) rest
      exact absurd (by rw [inside]) (before front' name' between named')

end Segment

/-! ## Reading along the tokens -/

namespace Cursor

open Segment

theorem segments_eq_cons {cursor after : Cursor} {segment : Segment}
    (read : cursor.next? = some (segment, after)) :
    cursor.segments = segment :: after.segments := by
  rw [segments]
  split
  · rename_i ended
    rw [read] at ended
    cases ended
  · rename_i segment' after' read'
    rw [read] at read'
    cases read'
    rfl

@[simp] theorem segments_nil (offset : Nat) : segments ⟨offset, []⟩ = [] := by
  rw [segments]
  split
  · rfl
  · contradiction

theorem rest_eq_nil_of_next? {cursor : Cursor} (ended : cursor.next? = none) :
    cursor.rest = [] := by
  unfold next? at ended
  split at ended
  · assumption
  · split at ended <;> contradiction

/-- A token has a name that a token can have, and its place is where it is read. -/
theorem token_of_next? {cursor after : Cursor} {name : String} {offset : Nat}
    (read : cursor.next? = some (.token name offset, after)) :
    IsTokenName name.toList ∧ offset = cursor.offset := by
  unfold next? at read
  split at read
  · contradiction
  · split at read
    · rename_i found
      simp only [Option.some.injEq, Prod.mk.injEq, Segment.token.injEq] at read
      obtain ⟨⟨rfl, rfl⟩, -⟩ := read
      exact ⟨by simpa using isTokenName_of_readToken? found, rfl⟩
    · simp at read

/-- A token at the start is the first segment. -/
theorem segments_token {name : List Char} (named : IsTokenName name) (offset : Nat)
    (behind : List Char) :
    segments ⟨offset, tokenText name ++ behind⟩ =
      .token (String.ofList name) offset ::
        segments ⟨offset + byteLength (tokenText name), behind⟩ := by
  apply segments_eq_cons
  have read := readToken?_tokenText named behind
  simp only [tokenText_append] at read ⊢
  simp [next?, read, past, source, tokenText]

/-- A text up to the next token, or up to the end, is one segment. -/
theorem segments_run {c : Char} {s rest : List Char} (offset : Nat)
    (unread : readToken? (c :: s ++ rest) = none) (run : untilToken (s ++ rest) = (s, rest)) :
    segments ⟨offset, c :: s ++ rest⟩ =
      .text (String.ofList (c :: s)) :: segments ⟨offset + byteLength (c :: s), rest⟩ := by
  apply segments_eq_cons
  simp only [List.cons_append] at unread ⊢
  simp [next?, unread, run, past, source]

/-- The segments of a text in which no token stands. -/
def textRun (cs : List Char) : List Segment :=
  if cs = [] then [] else [.text (String.ofList cs)]

theorem segments_of_tokenFree {cs : List Char} (free : TokenFree cs) (offset : Nat) :
    segments ⟨offset, cs⟩ = textRun cs := by
  cases cs with
  | nil => simp [textRun]
  | cons c s =>
    obtain ⟨unread, later⟩ := tokenFree_cons_iff.mp free
    rw [← List.append_nil s] at unread
    have run := segments_run offset unread (by simpa using untilToken_of_tokenFree later)
    simpa [textRun] using run

/-- A free text, a token and the rest are read one after the other. -/
theorem segments_append_token {front name : List Char} (free : TokenFree front)
    (named : IsTokenName name) (offset : Nat) (behind : List Char) :
    segments ⟨offset, front ++ (tokenText name ++ behind)⟩ =
      textRun front ++ .token (String.ofList name) (offset + byteLength front) ::
        segments ⟨offset + byteLength front + byteLength (tokenText name), behind⟩ := by
  cases front with
  | nil => simpa [textRun, byteLength] using segments_token named offset behind
  | cons c s =>
    have unread := readToken?_append_bracket free (name ++ '>' :: behind)
    rw [← tokenText_append] at unread
    rw [segments_run offset unread (untilToken_append_token (tokenFree_cons_iff.mp free).2 named _),
      segments_token named]
    simp [textRun]

end Cursor

/-! ## The tokens of a body -/

/-- The token called `name` stands in `body`, `offset` bytes behind its start. -/
def TokenAt (body name : String) (offset : Nat) : Prop :=
  Segment.IsTokenName name.toList ∧
    ∃ front behind : String, body = front ++ "<" ++ name ++ ">" ++ behind ∧
      front.utf8ByteSize = offset

theorem byteLength_append (s t : List Char) :
    byteLength (s ++ t) = byteLength s + byteLength t := by
  induction s with
  | nil => simp [byteLength]
  | cons c s ih => simp only [List.cons_append, byteLength, ih]; omega

/-- Offsets count what a text takes as it is stored. -/
theorem byteLength_eq_utf8ByteSize (cs : List Char) :
    byteLength cs = (String.ofList cs).utf8ByteSize := by
  induction cs with
  | nil => rfl
  | cons c s ih =>
    have split : String.ofList (c :: s) = String.singleton c ++ String.ofList s := by
      rw [String.singleton_eq_ofList, ← String.ofList_append]
      rfl
    rw [split, String.utf8ByteSize_append, String.utf8ByteSize_singleton, byteLength, ih]

namespace Cursor

open Segment

theorem token_not_mem_textRun (cs : List Char) (name : String) (offset : Nat) :
    Segment.token name offset ∉ textRun cs := by
  unfold textRun
  split <;> simp

/-- The token segments are the tokens that stand in the rest of the body, with
their places. -/
theorem token_mem_segments_iff (cs : List Char) (start : Nat) (name : String) (offset : Nat) :
    Segment.token name offset ∈ segments ⟨start, cs⟩ ↔
      IsTokenName name.toList ∧ ∃ front behind,
        cs = front ++ (tokenText name.toList ++ behind) ∧ offset = start + byteLength front := by
  induction cs using body_induction generalizing start with
  | free cs free =>
    rw [segments_of_tokenFree free]
    refine iff_of_false (token_not_mem_textRun cs name offset) ?_
    rintro ⟨named, front, behind, same, -⟩
    exact free front name.toList behind named same
  | token front first behind free named ih =>
    rw [segments_append_token free named, List.mem_append, List.mem_cons, ih]
    constructor
    · rintro (inText | same | ⟨named', front', behind', rfl, rfl⟩)
      · exact absurd inText (token_not_mem_textRun front name offset)
      · cases same
        exact ⟨by simpa using named, front, behind, by simp, rfl⟩
      · refine ⟨named', front ++ (tokenText first ++ front'), behind', by simp, ?_⟩
        simp only [byteLength_append]
        omega
    · rintro ⟨named', front', behind', same, rfl⟩
      rcases first_or_behind free named named' same with ⟨rfl, rfl, rfl⟩ | ⟨between, rfl, rfl⟩
      · exact .inr (.inl (by simp))
      · refine .inr (.inr ⟨named', between, behind', rfl, ?_⟩)
        simp only [byteLength_append]
        omega

/-- Tokens come in the order of their places. -/
theorem offsets_ascend (cs : List Char) (start : Nat) :
    (segments ⟨start, cs⟩).Pairwise fun earlier later =>
      ∀ name offset name' offset', earlier = .token name offset → later = .token name' offset' →
        offset < offset' := by
  induction cs using body_induction generalizing start with
  | free cs free =>
    rw [segments_of_tokenFree free, textRun]
    split <;> simp
  | token front first behind free named ih =>
    rw [segments_append_token free named, List.pairwise_append]
    refine ⟨?_, List.pairwise_cons.mpr ⟨?_, ih _⟩, ?_⟩
    · unfold textRun
      split <;> simp
    · rintro later member name offset name' offset' same rfl
      cases same
      obtain ⟨-, front', -, -, rfl⟩ := (token_mem_segments_iff _ _ _ _).mp member
      simp only [tokenText, byteLength]
      have : 0 < Char.utf8Size '<' := Char.utf8Size_pos '<'
      omega
    · rintro earlier member later - name offset name' offset' rfl
      exact absurd member (token_not_mem_textRun front name offset)

end Cursor

/-- As many bytes of one text are one and the same text. -/
theorem eq_of_byteLength_eq {front front' behind behind' : List Char}
    (same : front ++ behind = front' ++ behind') (long : byteLength front = byteLength front') :
    front = front' := by
  have none_ (middle : List Char) (empty : byteLength middle = 0) : middle = [] := by
    cases middle with
    | nil => rfl
    | cons c middle =>
      have := Char.utf8Size_pos c
      simp only [byteLength] at empty
      omega
  rcases List.append_eq_append_iff.mp same with ⟨middle, rfl, -⟩ | ⟨middle, rfl, -⟩
  · rw [byteLength_append] at long
    simp [none_ middle (by omega)]
  · rw [byteLength_append] at long
    simp [none_ middle (by omega)]

theorem tokenAt_iff (body name : String) (offset : Nat) :
    TokenAt body name offset ↔ Segment.token name offset ∈ Segment.ofBody body := by
  rw [Segment.ofBody, Cursor.token_mem_segments_iff, TokenAt]
  refine and_congr_right fun _ => ?_
  constructor
  · rintro ⟨front, behind, rfl, rfl⟩
    exact ⟨front.toList, behind.toList, by simp [String.toList_append],
      by simp [byteLength_eq_utf8ByteSize]⟩
  · rintro ⟨front, behind, same, rfl⟩
    refine ⟨String.ofList front, String.ofList behind, ?_, by simp [byteLength_eq_utf8ByteSize]⟩
    apply String.toList_inj.mp
    simpa [String.toList_append] using same

/-- At most one token starts at a place. -/
theorem tokenAt_unique {body name name' : String} {offset : Nat} (stands : TokenAt body name offset)
    (stands' : TokenAt body name' offset) : name = name' := by
  rw [tokenAt_iff, Segment.ofBody, Cursor.token_mem_segments_iff] at stands stands'
  obtain ⟨named, front, behind, same, long⟩ := stands
  obtain ⟨named', front', behind', same', long'⟩ := stands'
  rw [same] at same'
  have fronts := eq_of_byteLength_eq same' (by omega)
  rw [fronts] at same'
  have names := Segment.tokenText_append_inj named named' (List.append_cancel_left same')
  exact String.toList_inj.mp names.1

end ListOps
