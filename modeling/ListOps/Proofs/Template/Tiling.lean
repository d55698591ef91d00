/-
# ListOps.Proofs.Template.Tiling -- the segments of a body tile it

`Cursor.Tiled` says what it is to cut a text into segments, without a word about reading:
put together the segments are the text; a text segment is not empty, holds no token and
does not stand beside another one; a token segment has a name that a token can have, and
its place counts the bytes in front of it.  There is one way to cut a text so, and reading
finds it (`Cursor.tiled_iff`).

For a whole body this says where the tokens stand (`Segment.tiles_iff`): at the places
where a token can be read off the body, at each of them once, in order.
-/
import Mathlib.Data.List.Chain
import ListOps.Proofs.Template.Substitution

namespace ListOps

set_option autoImplicit false

open Segment

namespace Segment

def isText : Segment → Bool
  | .text _ => true
  | .token _ _ => false

/-- May the two stand beside each other?  Two texts would be one. -/
def Apart (first next : Segment) : Prop :=
  ¬ (first.isText = true ∧ next.isText = true)

theorem apart_token (first : Segment) (name : String) (offset : Nat) :
    first.Apart (.token name offset) :=
  fun both => Bool.false_ne_true both.2

theorem token_apart (name : String) (offset : Nat) (next : Segment) :
    Apart (.token name offset) next :=
  fun both => Bool.false_ne_true both.1

theorem not_text_apart (run run' : String) : ¬ Apart (.text run) (.text run') :=
  fun apart => apart ⟨rfl, rfl⟩

/-- The place and the name of a token. -/
def place? : Segment → Option (Nat × String)
  | .text _ => none
  | .token name offset => some (offset, name)

@[simp] theorem place?_eq_some_iff {segment : Segment} {name : String} {offset : Nat} :
    segment.place? = some (offset, name) ↔ segment = .token name offset := by
  cases segment with
  | text run => simp [place?]
  | token name' offset' => simp [place?, and_comm]

end Segment

namespace Cursor

/-- `segments` cut what is left of a body into texts and tokens. -/
structure Tiled (cursor : Cursor) (segments : List Segment) : Prop where
  source : segments.flatMap Segment.source = cursor.rest
  filled : ∀ run, .text run ∈ segments → run ≠ ""
  free : ∀ run, .text run ∈ segments → HasNoToken run
  apart : segments.IsChain Apart
  named : ∀ name offset, .token name offset ∈ segments → IsTokenName name.toList
  offsets : ∀ front name offset behind, segments = front ++ .token name offset :: behind →
    offset = cursor.offset + byteLength (front.flatMap Segment.source)

/-! ## What is read tiles -/

theorem text_mem_textRun_iff {cs : List Char} {run : String} :
    Segment.text run ∈ textRun cs ↔ cs ≠ [] ∧ run = String.ofList cs := by
  unfold textRun
  split <;> simp_all

theorem text_of_mem_segments {cs : List Char} {start : Nat} {run : String}
    (member : Segment.text run ∈ segments ⟨start, cs⟩) : run ≠ "" ∧ HasNoToken run := by
  have ofTextRun {cs : List Char} (free : TokenFree cs) (inside : .text run ∈ textRun cs) :
      run ≠ "" ∧ HasNoToken run := by
    obtain ⟨filled, rfl⟩ := text_mem_textRun_iff.mp inside
    exact ⟨by simpa using filled, hasNoToken_iff.mpr (by simpa using free)⟩
  induction cs using body_induction generalizing start with
  | free cs free =>
    rw [segments_of_tokenFree free] at member
    exact ofTextRun free member
  | token front name behind free named ih =>
    rw [segments_append_token free named, List.mem_append, List.mem_cons] at member
    rcases member with inFront | same | later
    · exact ofTextRun free inFront
    · cases same
    · exact ih later

/-- Whatever stands behind a text is a token. -/
theorem isChain_segments (cs : List Char) (start : Nat) : (segments ⟨start, cs⟩).IsChain Apart := by
  induction cs using body_induction generalizing start with
  | free cs free =>
    rw [segments_of_tokenFree free, textRun]
    split
    · exact .nil
    · exact .singleton _
  | token front name behind free named ih =>
    rw [segments_append_token free named]
    have behindToken (offset : Nat) : (Segment.token (String.ofList name) offset ::
        segments ⟨start + byteLength front + byteLength (tokenText name), behind⟩).IsChain Apart :=
      List.isChain_cons.mpr ⟨fun next _ => token_apart _ _ next, ih _⟩
    unfold textRun
    split
    · exact behindToken _
    · exact List.isChain_cons_cons.mpr ⟨apart_token _ _ _, behindToken _⟩

/-- The place of a token is what was read in front of it, in bytes. -/
theorem offset_of_segments {cursor : Cursor} {front behind : List Segment} {name : String}
    {offset : Nat} (read : cursor.segments = front ++ .token name offset :: behind) :
    offset = cursor.offset + byteLength (front.flatMap Segment.source) := by
  induction front generalizing cursor with
  | nil =>
    unfold segments at read
    split at read
    · cases read
    · rename_i segment after found
      simp only [List.nil_append, List.cons.injEq] at read
      rw [read.1] at found
      simp [(token_of_next? found).2, byteLength]
  | cons first front ih =>
    unfold segments at read
    split at read
    · cases read
    · rename_i segment after found
      simp only [List.cons_append, List.cons.injEq] at read
      rw [ih read.2, (source_next? found).2.2, ← read.1, List.flatMap_cons, byteLength_append]
      omega

theorem tiled_segments (cursor : Cursor) : cursor.Tiled cursor.segments where
  source := flatMap_source_segments cursor
  filled _ member := (text_of_mem_segments member).1
  free _ member := (text_of_mem_segments member).2
  apart := isChain_segments cursor.rest cursor.offset
  named _ _ member := ((token_mem_segments_iff _ _ _ _).mp member).1
  offsets _ _ _ _ read := offset_of_segments read

/-! ## Nothing else tiles -/

/-- What is left behind a segment is tiled by the others. -/
theorem Tiled.tail {cursor : Cursor} {segment : Segment} {rest : List Segment}
    (tiled : cursor.Tiled (segment :: rest)) :
    Tiled ⟨cursor.offset + byteLength segment.source, rest.flatMap Segment.source⟩ rest where
  source := rfl
  filled run member := tiled.filled run (List.mem_cons_of_mem segment member)
  free run member := tiled.free run (List.mem_cons_of_mem segment member)
  apart := tiled.apart.tail
  named name offset member := tiled.named name offset (List.mem_cons_of_mem segment member)
  offsets front name offset behind same := by
    rw [tiled.offsets (segment :: front) name offset behind (by rw [same]; rfl),
      List.flatMap_cons, byteLength_append, Nat.add_assoc]

/-- A text up to a token, or up to the end, is read on its own. -/
theorem segments_textRun_append {run rest : List Char} (free : TokenFree run)
    (stops : rest = [] ∨ ∃ name behind, IsTokenName name ∧ rest = tokenText name ++ behind)
    (start : Nat) : segments ⟨start, run ++ rest⟩ =
      textRun run ++ segments ⟨start + byteLength run, rest⟩ := by
  rcases stops with rfl | ⟨name, behind, named, rfl⟩
  · rw [List.append_nil, segments_of_tokenFree free, segments_nil, List.append_nil]
  · rw [segments_append_token free named, segments_token named]

theorem Tiled.eq_segments {cursor : Cursor} {tiles : List Segment} (tiled : cursor.Tiled tiles) :
    cursor.segments = tiles := by
  induction tiles generalizing cursor with
  | nil =>
    obtain ⟨start, cs⟩ := cursor
    have ended : cs = [] := tiled.source.symm
    rw [ended, segments_nil]
  | cons segment rest ih =>
    have later := ih tiled.tail
    obtain ⟨start, cs⟩ := cursor
    have spelled : cs = segment.source ++ rest.flatMap Segment.source := by
      rw [← List.flatMap_cons, tiled.source]
    cases segment with
    | token name offset =>
      have named := tiled.named name offset List.mem_cons_self
      have place : offset = start := tiled.offsets [] name offset rest rfl
      have text : Segment.source (.token name offset) = tokenText name.toList := rfl
      rw [text] at spelled later
      rw [spelled, segments_token named, later, place, String.ofList_toList]
    | text run =>
      have filled := tiled.filled run List.mem_cons_self
      have free := hasNoToken_iff.mp (tiled.free run List.mem_cons_self)
      have stops : rest.flatMap Segment.source = [] ∨ ∃ name behind, IsTokenName name ∧
          rest.flatMap Segment.source = tokenText name ++ behind := by
        cases rest with
        | nil => exact .inl rfl
        | cons next rest =>
          cases next with
          | text run' => exact absurd (List.isChain_cons_cons.mp tiled.apart).1 (not_text_apart _ _)
          | token name offset =>
            exact .inr ⟨name.toList, rest.flatMap Segment.source,
              tiled.named name offset (by simp), rfl⟩
      have alone : textRun run.toList = [.text run] := by simp [textRun, filled]
      have text : Segment.source (.text run) = run.toList := rfl
      rw [text] at spelled later
      rw [spelled, segments_textRun_append free stops, alone, later]
      rfl

/-- There is one way to cut what is left into texts and tokens, and reading finds it. -/
theorem tiled_iff {cursor : Cursor} {tiles : List Segment} :
    cursor.Tiled tiles ↔ tiles = cursor.segments := by
  constructor
  · exact fun tiled => tiled.eq_segments.symm
  · rintro rfl
    exact tiled_segments cursor

end Cursor

/-! ## Bodies -/

namespace Segment

/-- `segments` tile `body`: they cut it into texts and tokens, and their tokens are those
that stand in it, each once and in the order of their places. -/
structure Tiles (body : String) (segments : List Segment) : Prop
    extends Cursor.Tiled ⟨0, body.toList⟩ segments where
  tokens : ∀ name offset,
    (offset, name) ∈ segments.filterMap place? ↔ TokenAt body name offset
  ascending : (segments.filterMap place?).Pairwise fun earlier later => earlier.1 < later.1

/-- **The segments of a body tile it**, and nothing else does. -/
theorem tiles_iff (body : String) (segments : List Segment) :
    Tiles body segments ↔ segments = ofBody body := by
  constructor
  · exact fun tiles => Cursor.tiled_iff.mp tiles.toTiled
  · rintro rfl
    refine ⟨Cursor.tiled_segments _, fun name offset => ?_, ?_⟩
    · simp only [List.mem_filterMap, place?_eq_some_iff, exists_eq_right]
      exact (tokenAt_iff body name offset).symm
    · refine List.pairwise_filterMap.mpr ((Cursor.offsets_ascend _ 0).imp ?_)
      rintro earlier later ascend ⟨offset, name⟩ same ⟨offset', name'⟩ same'
      exact ascend name offset name' offset' (place?_eq_some_iff.mp same)
        (place?_eq_some_iff.mp same')

end Segment

end ListOps
