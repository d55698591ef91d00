/-
# ListOps.Template.Segment -- a template's body, cut into text and tokens

A token is `<NAME>`, where the name is a capital letter and then capitals,
digits and underscores.  Any other `<` is ordinary text, so comparisons in
generated code need no escaping.  `Cursor.next?` reads one segment: the token
that starts here, or else the text up to the next token.  The pieces of a body
in order are `Segment.ofBody`; `Segment.source` gives each piece back, and
`Cursor.flatMap_source_segments` says that reading loses nothing.

Offsets count the bytes of the body in UTF-8.
-/

namespace ListOps

set_option autoImplicit false

/-- A piece of a template's body. -/
inductive Segment
  /-- Text that is written as it stands. -/
  | text (run : String)
  /-- A token, with the place of its opening bracket. -/
  | token (name : String) (offset : Nat)
deriving DecidableEq

namespace Segment

/-- The characters that the piece was read from. -/
def source : Segment → List Char
  | text run => run.toList
  | token name _ => '<' :: name.toList ++ ['>']

/-- Is `c` one of `A`..`Z`? -/
def isCapital (c : Char) : Bool :=
  'A' ≤ c && c ≤ 'Z'

/-- May `c` follow the capital that opens a token's name? -/
def isNameChar (c : Char) : Bool :=
  isCapital c || ('0' ≤ c && c ≤ '9') || c == '_'

/-- The name of the token that the text starts with, and what follows it. -/
def readToken? : List Char → Option (List Char × List Char)
  | '<' :: c :: rest =>
      if isCapital c then
        match rest.dropWhile isNameChar with
        | '>' :: after => some (c :: rest.takeWhile isNameChar, after)
        | _ => none
      else none
  | _ => none

/-- The text in front of the first token, and what follows. -/
def untilToken : List Char → List Char × List Char
  | [] => ([], [])
  | c :: rest =>
      if (readToken? (c :: rest)).isSome then ([], c :: rest)
      else (c :: (untilToken rest).1, (untilToken rest).2)

theorem eq_of_readToken? {cs name after : List Char} (h : readToken? cs = some (name, after)) :
    cs = '<' :: name ++ '>' :: after := by
  unfold readToken? at h
  split at h
  · rename_i c rest
    split at h
    · split at h
      · rename_i found
        simp only [Option.some.injEq, Prod.mk.injEq] at h
        obtain ⟨rfl, rfl⟩ := h
        rw [List.cons_append, List.cons_append, ← found, List.takeWhile_append_dropWhile]
      · contradiction
    · contradiction
  · contradiction

theorem untilToken_append (cs : List Char) : (untilToken cs).1 ++ (untilToken cs).2 = cs := by
  induction cs with
  | nil => rfl
  | cons c rest ih =>
    unfold untilToken
    split
    · rfl
    · simp [ih]

end Segment

/-- How many bytes `cs` takes in UTF-8. -/
def byteLength : List Char → Nat
  | [] => 0
  | c :: rest => c.utf8Size + byteLength rest

/-- A place in a body: the bytes in front of it and the characters behind. -/
structure Cursor where
  offset : Nat
  rest : List Char

namespace Cursor

/-- Move over a segment. -/
def past (cursor : Cursor) (segment : Segment) (rest : List Char) : Cursor where
  offset := cursor.offset + byteLength segment.source
  rest := rest

/-- The segment that starts here and the place behind it, or `none` at the end
of the body.  A character that opens no token is text whatever follows it. -/
def next? (cursor : Cursor) : Option (Segment × Cursor) :=
  match cursor.rest with
  | [] => none
  | c :: rest =>
      match Segment.readToken? (c :: rest) with
      | some (name, after) =>
          let segment := .token (String.ofList name) cursor.offset
          some (segment, cursor.past segment after)
      | none =>
          let (run, after) := Segment.untilToken rest
          let segment := .text (String.ofList (c :: run))
          some (segment, cursor.past segment after)

/-- Reading a segment takes exactly its characters off the text. -/
theorem source_next? {cursor after : Cursor} {segment : Segment}
    (h : cursor.next? = some (segment, after)) :
    cursor.rest = segment.source ++ after.rest ∧ segment.source ≠ [] ∧
      after.offset = cursor.offset + byteLength segment.source := by
  unfold next? at h
  split at h
  · contradiction
  · rename_i c rest same
    split at h
    · rename_i name behind found
      simp only [Option.some.injEq, Prod.mk.injEq] at h
      obtain ⟨rfl, rfl⟩ := h
      simp [same, Segment.eq_of_readToken? found, Segment.source, past]
    · simp only [Option.some.injEq, Prod.mk.injEq] at h
      obtain ⟨rfl, rfl⟩ := h
      simp [same, Segment.source, past, Segment.untilToken_append]

theorem length_rest_lt {cursor after : Cursor} {segment : Segment}
    (h : cursor.next? = some (segment, after)) : after.rest.length < cursor.rest.length := by
  obtain ⟨same, nonempty, -⟩ := source_next? h
  rw [same, List.length_append]
  have := List.length_pos_iff.mpr nonempty
  omega

/-- All segments from here on. -/
def segments (cursor : Cursor) : List Segment :=
  match _h : cursor.next? with
  | none => []
  | some (segment, after) => segment :: after.segments
termination_by cursor.rest.length
decreasing_by exact length_rest_lt _h

theorem flatMap_source_segments (cursor : Cursor) :
    cursor.segments.flatMap Segment.source = cursor.rest := by
  fun_induction segments cursor with
  | case1 cursor ended =>
    unfold next? at ended
    split at ended
    · simp [*]
    · split at ended <;> contradiction
  | case2 cursor segment after read ih =>
    rw [List.flatMap_cons, ih, (source_next? read).1]

end Cursor

/-- The segments of a whole body. -/
def Segment.ofBody (body : String) : List Segment :=
  Cursor.segments ⟨0, body.toList⟩

example : Segment.ofBody "é<A<TYPE>< <N" =
    [.text "é<A", .token "TYPE" 4, .text "< <N"] := by
  decide +kernel

end ListOps
