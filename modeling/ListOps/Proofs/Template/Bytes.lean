/-
# ListOps.Proofs.Template.Bytes -- a body read byte by byte

A body is stored as bytes, and a reader that goes through them one at a time
stands, most of the time, wherever it happens to be: inside a character as well
as between two.  Such a reader is `Stored.next`.  It cuts its segments out of the
body by their places, and a place inside a character would be a fault there.

Seen as a character of its own, a byte can be compared with the characters of a
token.  A character that may stand in a token is its only byte, and the bytes of
all others look like none that may (`spread_cases`).  So no token is found inside
a character, none is missed, and reading stops between characters only: `next_eq`
says that `Stored.next` reads what `Cursor.next?` reads, without a fault, and
`reading_stays_inside` what this means for the places themselves.
-/
import Mathlib.Data.String.Basic
import ListOps.Proofs.Template.Substitution

namespace ListOps

set_option autoImplicit false

open Segment

namespace Stored

/-! ## Reading bytes -/

/-- A body as it is stored. -/
def bytes (body : String) : List UInt8 :=
  body.toByteArray.data.toList

/-- Does the byte at `place` stand for a character with `property`? -/
def hasAt (stored : List UInt8) (place : Nat) (property : Char → Bool) : Bool :=
  stored[place]?.any fun byte => property (Char.ofUInt8 byte)

/-- The first place from `place` on where `going` fails, but no further than `size`. -/
def advance (going : Nat → Bool) (size place : Nat) : Nat :=
  if place < size ∧ going place = true then advance going size (place + 1) else place
termination_by size - place

/-- How many bytes the token at `place` takes, if there is one. -/
def tokenLength? (stored : List UInt8) (place : Nat) : Option Nat :=
  if hasAt stored place (· == '<') && hasAt stored (place + 1) isCapital then
    let closing := advance (fun inside => hasAt stored inside isNameChar) stored.length (place + 1)
    if hasAt stored closing (· == '>') then some (closing + 1 - place) else none
  else none

/-- A text or a token by its places: what is cut out of the body, and where reading goes
on. -/
structure Piece where
  isToken : Bool
  first : Nat
  last : Nat
  behind : Nat
deriving DecidableEq

/-- The piece at `place`, or `none` at the end.  A byte that opens no token is text, and
the text goes on to the next token. -/
def piece? (stored : List UInt8) (place : Nat) : Option Piece :=
  if stored.length ≤ place then none
  else
    match tokenLength? stored place with
    | some length => some ⟨true, place + 1, place + length - 1, place + length⟩
    | none =>
        let stop := advance (fun inside => (tokenLength? stored inside).isNone) stored.length
          (place + 1)
        some ⟨false, place, stop, stop⟩

/-- A part that cannot be cut out: its ends are out of order, or one of them stands
outside of the body or inside a character. -/
structure BadCut where
  first : Nat
  last : Nat
deriving DecidableEq

/-- The part of the body between two places. -/
def cut (body : String) (first last : Nat) : Except BadCut String :=
  if first ≤ last ∧ String.Pos.Raw.IsValid body ⟨first⟩ ∧ String.Pos.Raw.IsValid body ⟨last⟩ then
    .ok (String.Pos.Raw.extract body ⟨first⟩ ⟨last⟩)
  else .error ⟨first, last⟩

/-- Read the segment at `place`: it, and the place behind it. -/
def next (body : String) (place : Nat) : Except BadCut (Option (Segment × Nat)) :=
  match piece? (bytes body) place with
  | none => .ok none
  | some piece => do
      let run ← cut body piece.first piece.last
      return some (if piece.isToken then .token run place else .text run, piece.behind)

/-- The places at which reading stops on its way through the body. -/
inductive Reached (body : String) : Nat → Prop
  | start : Reached body 0
  | step {place behind : Nat} {segment : Segment} (reached : Reached body place)
      (read : next body place = .ok (some (segment, behind))) : Reached body behind

/-- Reading on from a place comes to an end, and `segments` are read on the way. -/
inductive Reads (body : String) : Nat → List Segment → Prop
  | ended {place : Nat} (read : next body place = .ok none) : Reads body place []
  | more {place behind : Nat} {segment : Segment} {segments : List Segment}
      (read : next body place = .ok (some (segment, behind)))
      (later : Reads body behind segments) : Reads body place (segment :: segments)

/-! ## Going forward -/

/-- The bytes, each seen as a character of its own. -/
def seen (stored : List UInt8) : List Char :=
  stored.map Char.ofUInt8

theorem length_seen (stored : List UInt8) : (seen stored).length = stored.length :=
  List.length_map _

/-- Going on as long as the characters ahead say is going over their run. -/
theorem advance_eq {stored : List UInt8} {going : Nat → Bool} (run : List Char → Nat)
    (stop : run [] = 0)
    (step : ∀ place c rest, (seen stored).drop place = c :: rest →
      run (c :: rest) = if going place then run rest + 1 else 0) (place : Nat) :
    advance going stored.length place = place + run ((seen stored).drop place) := by
  rw [← length_seen]
  fun_induction advance with
  | case1 place inside ih =>
    have here := List.drop_eq_getElem_cons inside.1
    rw [ih, here, step place _ _ here, if_pos inside.2]
    omega
  | case2 place outside =>
    by_cases short : place < (seen stored).length
    · have here := List.drop_eq_getElem_cons short
      have halted : ¬ going place = true := fun on => outside ⟨short, on⟩
      rw [here, step place _ _ here, if_neg halted, Nat.add_zero]
    · rw [List.drop_eq_nil_of_le (Nat.le_of_not_lt short), stop, Nat.add_zero]

theorem hasAt_eq (stored : List UInt8) (place : Nat) (property : Char → Bool) :
    hasAt stored place property = ((seen stored).drop place).head?.any property := by
  rw [hasAt, List.head?_drop, seen, List.getElem?_map]
  cases stored[place]? <;> rfl

theorem advance_hasAt (stored : List UInt8) (property : Char → Bool) (place : Nat) :
    advance (fun inside => hasAt stored inside property) stored.length place =
      place + (((seen stored).drop place).takeWhile property).length := by
  have step (place : Nat) (c : Char) (rest : List Char)
      (here : (seen stored).drop place = c :: rest) :
      ((c :: rest).takeWhile property).length =
        if hasAt stored place property then (rest.takeWhile property).length + 1 else 0 := by
    rw [hasAt_eq, here, List.takeWhile_cons, List.head?_cons, Option.any_some]
    split <;> rfl
  exact advance_eq (fun cs => (cs.takeWhile property).length) rfl step place

theorem drop_length_takeWhile (property : Char → Bool) (cs : List Char) :
    cs.drop (cs.takeWhile property).length = cs.dropWhile property := by
  conv_lhs =>
    arg 2
    rw [← List.takeWhile_append_dropWhile (p := property) (l := cs)]
  exact List.drop_left

/-- A token is read off the bytes as off characters. -/
theorem tokenLength?_eq (stored : List UInt8) (place : Nat) :
    tokenLength? stored place =
      (readToken? ((seen stored).drop place)).map fun found => found.1.length + 2 := by
  rw [tokenLength?, advance_hasAt]
  simp only [hasAt_eq, ← List.drop_drop]
  rw [drop_length_takeWhile]
  generalize (seen stored).drop place = cs
  rcases cs with _ | ⟨c, _ | ⟨d, rest⟩⟩
  · simp [readToken?]
  · simp [readToken?]
  · by_cases opens : c = '<' ∧ isCapital d = true
    · obtain ⟨rfl, capital⟩ := opens
      have named : isNameChar d = true := by simp [isNameChar, capital]
      have length (run : Nat) : place + 1 + (run + 1) + 1 - place = run + 1 + 2 := by omega
      simp only [List.head?_cons, Option.any_some, beq_self_eq_true, List.drop_one, List.tail_cons,
        capital, Bool.and_self, if_true, List.dropWhile_cons_of_pos named,
        List.takeWhile_cons_of_pos named, List.length_cons, length, readToken?]
      cases rest.dropWhile isNameChar with
      | nil => rfl
      | cons e after => by_cases closes : e = '>' <;> simp [closes]
    · have unread : readToken? (c :: d :: rest) = none := by
        unfold readToken?
        split
        · rename_i same
          cases same
          exact if_neg fun capital => opens ⟨rfl, capital⟩
        · rfl
      rw [unread, if_neg (by simpa using opens)]
      rfl

theorem advance_tokenLength? (stored : List UInt8) (place : Nat) :
    advance (fun inside => (tokenLength? stored inside).isNone) stored.length place =
      place + (untilToken ((seen stored).drop place)).1.length := by
  have step (place : Nat) (c : Char) (rest : List Char)
      (here : (seen stored).drop place = c :: rest) :
      (untilToken (c :: rest)).1.length =
        if (tokenLength? stored place).isNone then (untilToken rest).1.length + 1 else 0 := by
    rw [tokenLength?_eq, here, untilToken]
    cases readToken? (c :: rest) <;> rfl
  exact advance_eq (fun cs => (untilToken cs).1.length) rfl step place

/-! ## Characters of several bytes -/

/-- The bytes of a character, each seen as a character of its own. -/
def spread (c : Char) : List Char :=
  (String.utf8EncodeChar c).map Char.ofUInt8

theorem spread_ne_nil (c : Char) : spread c ≠ [] := by
  simp [spread, String.utf8EncodeChar_ne_nil]

theorem spread_of_ascii {c : Char} (ascii : c.toNat < 0x80) : spread c = [c] := by
  have small : c.val.toNat ≤ 0x7F := Nat.le_of_lt_succ ascii
  have code : (Char.ofUInt8 (UInt8.ofNat c.val.toNat)).toNat = c.toNat :=
    Nat.mod_eq_of_lt (Nat.lt_of_le_of_lt small (by decide))
  rw [spread, String.utf8EncodeChar, if_pos small, List.map_singleton, Char.toNat_inj.mp code]

theorem high_of_mem_spread {c d : Char} (high : 0x80 ≤ c.toNat) (inside : d ∈ spread c) :
    0x80 ≤ d.toNat := by
  have large : ¬ c.val.toNat ≤ 0x7F := Nat.not_le_of_lt high
  -- the first byte and those that follow it have their own highest bits
  have marked : ∀ byte ∈ String.utf8EncodeChar c, 0x80 ≤ byte.toNat := by
    rw [String.utf8EncodeChar, if_neg large]
    split_ifs <;>
      simp only [List.forall_mem_cons, List.not_mem_nil, IsEmpty.forall_iff, implies_true, and_true,
        UInt8.toNat_ofNat'] <;>
      omega
  obtain ⟨byte, listed, rfl⟩ := List.mem_map.mp inside
  exact marked byte listed

theorem ascii_of_isTokenChar {c : Char} (inside : isTokenChar c = true) : c.toNat < 0x80 := by
  have code : c.toNat = c.val.toNat := rfl
  simp only [isTokenChar, isNameChar, isCapital, Bool.or_eq_true, Bool.and_eq_true,
    decide_eq_true_eq, beq_iff_eq, Char.le_def, UInt32.le_iff_toNat_le] at inside
  rcases inside with (((capital | digit) | rfl) | rfl) | rfl
  · exact Nat.lt_of_le_of_lt capital.2 (by decide)
  · exact Nat.lt_of_le_of_lt digit.2 (by decide)
  all_goals decide

/-- A character that may stand in a token is its only byte; the bytes of any other look
like none that may. -/
theorem spread_cases (c : Char) :
    spread c = [c] ∨ ∃ d rest, spread c = d :: rest ∧ ∀ e ∈ d :: rest, isTokenChar e = false := by
  by_cases ascii : c.toNat < 0x80
  · exact .inl (spread_of_ascii ascii)
  · obtain ⟨d, rest, same⟩ := List.exists_cons_of_ne_nil (spread_ne_nil c)
    refine .inr ⟨d, rest, same, fun e inside => ?_⟩
    rw [← same] at inside
    rw [← Bool.not_eq_true]
    intro token
    have low := ascii_of_isTokenChar token
    have high := high_of_mem_spread (Nat.le_of_not_lt ascii) inside
    omega

theorem flatMap_spread_of_tokenChars {cs : List Char} (token : ∀ c ∈ cs, isTokenChar c = true) :
    cs.flatMap spread = cs := by
  induction cs with
  | nil => rfl
  | cons c rest ih =>
    rw [List.forall_mem_cons] at token
    rw [List.flatMap_cons, spread_of_ascii (ascii_of_isTokenChar token.1), ih token.2]
    rfl

/-- What looks like a part of a token among the bytes is one. -/
theorem exists_append_of_flatMap_spread {front behind cs : List Char}
    (token : ∀ c ∈ front, isTokenChar c = true) (same : cs.flatMap spread = front ++ behind) :
    ∃ rest, cs = front ++ rest ∧ behind = rest.flatMap spread := by
  induction front generalizing cs with
  | nil => exact ⟨cs, rfl, same.symm⟩
  | cons c front ih =>
    rw [List.forall_mem_cons] at token
    cases cs with
    | nil => simp at same
    | cons e cs =>
      rw [List.flatMap_cons] at same
      rcases spread_cases e with alone | ⟨d, rest, several, none_⟩
      · rw [alone] at same
        simp only [List.cons_append, List.nil_append, List.cons.injEq] at same
        obtain ⟨rfl, same⟩ := same
        obtain ⟨rest, rfl, rfl⟩ := ih token.2 same
        exact ⟨rest, rfl, rfl⟩
      · rw [several] at same
        simp only [List.cons_append, List.cons.injEq] at same
        have outside := none_ d List.mem_cons_self
        rw [same.1, token.1] at outside
        cases outside

theorem isTokenChar_of_mem_tokenText {name : List Char} (named : IsTokenName name) :
    ∀ c ∈ tokenText name, isTokenChar c = true := by
  intro c inside
  rw [← Bool.not_eq_false]
  exact fun outside => not_mem_tokenText named outside inside

theorem flatMap_spread_tokenText {name : List Char} (named : IsTokenName name)
    (behind : List Char) :
    (tokenText name ++ behind).flatMap spread = tokenText name ++ behind.flatMap spread := by
  rw [List.flatMap_append, flatMap_spread_of_tokenChars (isTokenChar_of_mem_tokenText named)]

theorem readToken?_flatMap_spread (cs : List Char) :
    readToken? (cs.flatMap spread) =
      (readToken? cs).map fun found => (found.1, found.2.flatMap spread) := by
  cases read : readToken? cs with
  | some found =>
    obtain ⟨named, rfl⟩ := readToken?_eq_some_iff.mp read
    rw [flatMap_spread_tokenText named, readToken?_tokenText named]
    rfl
  | none =>
    cases read' : readToken? (cs.flatMap spread) with
    | none => rfl
    | some found =>
      obtain ⟨named, same⟩ := readToken?_eq_some_iff.mp read'
      obtain ⟨rest, rfl, -⟩ :=
        exists_append_of_flatMap_spread (isTokenChar_of_mem_tokenText named) same
      rw [readToken?_tokenText named] at read
      cases read

theorem tokenFree_flatMap_spread {cs : List Char} (free : TokenFree cs) :
    TokenFree (cs.flatMap spread) := by
  induction cs with
  | nil => exact free
  | cons c rest ih =>
    obtain ⟨unread, later⟩ := tokenFree_cons_iff.mp free
    have unread' := readToken?_flatMap_spread (c :: rest)
    rw [unread, List.flatMap_cons] at unread'
    rw [List.flatMap_cons]
    rcases spread_cases c with alone | ⟨d, behind, several, none_⟩
    · rw [alone] at unread' ⊢
      exact tokenFree_cons_iff.mpr ⟨unread', ih later⟩
    · refine tokenFree_append_of_not_mem (fun bracket => ?_) (ih later)
      rw [several] at bracket
      exact absurd (none_ '<' bracket) (by decide)

/-- The text up to the next token, in bytes. -/
theorem untilToken_flatMap_spread (cs : List Char) :
    (untilToken (cs.flatMap spread)).1 = (untilToken cs).1.flatMap spread := by
  rcases tokenFree_or_first_token cs with free | ⟨front, name, behind, free, named, rfl⟩
  · rw [untilToken_of_tokenFree free, untilToken_of_tokenFree (tokenFree_flatMap_spread free)]
  · rw [List.flatMap_append, flatMap_spread_tokenText named,
      untilToken_append_token (tokenFree_flatMap_spread free) named,
      untilToken_append_token free named]

/-! ## Places between characters -/

theorem length_flatMap_spread (cs : List Char) : (cs.flatMap spread).length = byteLength cs := by
  induction cs with
  | nil => rfl
  | cons c rest ih =>
    rw [List.flatMap_cons, List.length_append, ih, spread, List.length_map,
      String.length_utf8EncodeChar, byteLength]

theorem byteLength_of_isTokenName {name : List Char} (named : IsTokenName name) :
    byteLength name = name.length := by
  have token : ∀ c ∈ name, isTokenChar c = true := fun c inside =>
    isTokenChar_of_mem_tokenText named c (by simp [tokenText, inside])
  rw [← length_flatMap_spread, flatMap_spread_of_tokenChars token]

theorem seen_bytes (body : String) : seen (bytes body) = body.toList.flatMap spread := by
  have stored : bytes body = body.toList.flatMap String.utf8EncodeChar := by
    conv_lhs => rw [bytes, ← String.ofList_toList (s := body)]
    rw [String.toByteArray_ofList, List.utf8Encode, List.data_toByteArray]
  rw [seen, stored, List.map_flatMap]
  rfl

variable {body : String} {front inner behind : List Char}

theorem drop_seen_bytes (spelled : body.toList = front ++ behind) :
    (seen (bytes body)).drop (byteLength front) = behind.flatMap spread := by
  rw [seen_bytes, spelled, List.flatMap_append, ← length_flatMap_spread, List.drop_left]

theorem length_bytes (body : String) : (bytes body).length = byteLength body.toList := by
  rw [← length_flatMap_spread, ← seen_bytes, length_seen]

theorem byteLength_toList (body : String) : byteLength body.toList = body.utf8ByteSize := by
  rw [byteLength_eq_utf8ByteSize, String.ofList_toList]

theorem isValid_of_append (spelled : body.toList = front ++ behind) :
    String.Pos.Raw.IsValid body ⟨byteLength front⟩ := by
  refine String.Pos.Raw.isValid_iff_exists_append.mpr
    ⟨String.ofList front, String.ofList behind, ?_, ?_⟩
  · rw [← String.ofList_append, ← spelled, String.ofList_toList]
  · exact String.Pos.Raw.ext (by rw [String.byteIdx_rawEndPos, byteLength_eq_utf8ByteSize])

theorem cut_eq_ok (spelled : body.toList = front ++ (inner ++ behind)) :
    cut body (byteLength front) (byteLength front + byteLength inner) =
      .ok (String.ofList inner) := by
  have size (cs : List Char) : byteLength cs = String.utf8Len cs := by
    rw [byteLength_eq_utf8ByteSize, String.utf8ByteSize_ofList]
  have first := isValid_of_append spelled
  have last : String.Pos.Raw.IsValid body ⟨byteLength front + byteLength inner⟩ := by
    rw [← byteLength_append]
    exact isValid_of_append (by rw [spelled, List.append_assoc])
  have part := String.extract_of_valid front inner behind
  rw [List.append_assoc, ← spelled, String.ofList_toList, ← size, ← size] at part
  rw [cut, if_pos ⟨Nat.le_add_right _ _, first, last⟩, part]

/-! ## Reading on -/

/-- `cursor` stands between two characters of the body. -/
def StandsIn (body : String) (cursor : Cursor) : Prop :=
  ∃ front, body.toList = front ++ cursor.rest ∧ cursor.offset = byteLength front

theorem standsIn_start (body : String) : StandsIn body ⟨0, body.toList⟩ :=
  ⟨[], rfl, rfl⟩

theorem StandsIn.next {cursor after : Cursor} {segment : Segment} (stands : StandsIn body cursor)
    (read : cursor.next? = some (segment, after)) : StandsIn body after := by
  obtain ⟨front, spelled, offset⟩ := stands
  obtain ⟨rest, -, place⟩ := Cursor.source_next? read
  exact ⟨front ++ segment.source, by rw [spelled, rest, List.append_assoc],
    by rw [place, offset, byteLength_append]⟩

/-- What a segment takes, if it is read at `place`. -/
def Piece.ofSegment (place : Nat) : Segment → Piece
  | .text run =>
      let stop := place + byteLength run.toList
      ⟨false, place, stop, stop⟩
  | .token name _ =>
      let stop := place + 1 + byteLength name.toList
      ⟨true, place + 1, stop, stop + 1⟩

theorem bracket_not_mem_tail_spread (c : Char) : '<' ∉ (spread c).tail := by
  rcases spread_cases c with alone | ⟨d, rest, several, none_⟩
  · simp [alone]
  · intro bracket
    rw [several] at bracket
    exact absurd (none_ '<' (List.mem_cons_of_mem d bracket)) (by decide)

/-- Behind the first byte, the text goes on over the rest of the character and up to the
next token. -/
theorem length_untilToken_tail (c : Char) (rest : List Char) :
    1 + (untilToken (((c :: rest).flatMap spread).drop 1)).1.length =
      byteLength (c :: (untilToken rest).1) := by
  obtain ⟨d, ds, same⟩ := List.exists_cons_of_ne_nil (spread_ne_nil c)
  have noBracket := bracket_not_mem_tail_spread c
  rw [same, List.tail_cons] at noBracket
  rw [List.flatMap_cons, same, List.cons_append, List.drop_succ_cons, List.drop_zero,
    untilToken_append_of_not_mem noBracket, untilToken_flatMap_spread, ← length_flatMap_spread,
    List.flatMap_cons, same, List.cons_append, List.length_cons, Nat.add_comm]

/-- The piece at a place between characters is what the segment read there takes. -/
theorem piece?_eq {cursor : Cursor} (stands : StandsIn body cursor) :
    piece? (bytes body) cursor.offset =
      cursor.next?.map fun read => Piece.ofSegment cursor.offset read.1 := by
  obtain ⟨offset, rest⟩ := cursor
  obtain ⟨front, spelled, place⟩ := stands
  dsimp only at spelled place
  subst place
  have size := length_bytes body
  rw [spelled, byteLength_append] at size
  cases rest with
  | nil =>
    rw [piece?, if_pos (by simp [size, byteLength])]
    rfl
  | cons c rest =>
    have positive := Char.utf8Size_pos c
    have inside : ¬ (bytes body).length ≤ byteLength front := by
      rw [size, byteLength]
      omega
    rw [piece?, if_neg inside, tokenLength?_eq, drop_seen_bytes spelled,
      readToken?_flatMap_spread, Cursor.next?]
    cases read : readToken? (c :: rest) with
    | some found =>
      obtain ⟨name, after⟩ := found
      have length := byteLength_of_isTokenName (isTokenName_of_readToken? read)
      have behind : byteLength front + (name.length + 2) =
          byteLength front + 1 + name.length + 1 := by omega
      simp only [Option.map_some, behind, Nat.add_sub_cancel, read, Piece.ofSegment,
        String.toList_ofList, length]
    | none =>
      have run : (untilToken ((seen (bytes body)).drop (byteLength front + 1))).1.length + 1 =
          byteLength (c :: (untilToken rest).1) := by
        rw [← length_untilToken_tail, ← drop_seen_bytes spelled, List.drop_drop, Nat.add_comm]
      have stop : byteLength front + 1 +
          (untilToken ((seen (bytes body)).drop (byteLength front + 1))).1.length =
            byteLength front + byteLength (c :: (untilToken rest).1) := by omega
      simp only [Option.map_none, Option.map_some, advance_tokenLength?, stop, read,
        Piece.ofSegment, String.toList_ofList]

/-- What is cut out for a segment: the text, or the name of the token. -/
def cutOut : Segment → List Char
  | .text run => run.toList
  | .token name _ => name.toList

section

variable {cursor after : Cursor} {segment : Segment} (read : cursor.next? = some (segment, after))

include read

theorem cutOut_ne_nil : cutOut segment ≠ [] := by
  obtain ⟨-, filled, -⟩ := Cursor.source_next? read
  cases segment with
  | text run => exact filled
  | token name offset =>
    obtain ⟨named, -⟩ := Cursor.token_of_next? read
    exact fun empty : name.toList = [] => by rwa [empty] at named

theorem behind_ofSegment : (Piece.ofSegment cursor.offset segment).behind = after.offset := by
  obtain ⟨-, -, place⟩ := Cursor.source_next? read
  cases segment with
  | text run => exact place.symm
  | token name offset =>
    have size : byteLength (source (.token name offset)) = 1 + byteLength name.toList + 1 := by
      rw [source, byteLength_append]
      rfl
    change cursor.offset + 1 + byteLength name.toList + 1 = after.offset
    omega

/-- The piece is cut out between two characters of the body. -/
theorem ofSegment_stands (stands : StandsIn body cursor) :
    ∃ front behind, body.toList = front ++ (cutOut segment ++ behind) ∧
      (Piece.ofSegment cursor.offset segment).first = byteLength front ∧
      (Piece.ofSegment cursor.offset segment).last =
        byteLength front + byteLength (cutOut segment) := by
  obtain ⟨front, spelled, offset⟩ := stands
  obtain ⟨rest, -, -⟩ := Cursor.source_next? read
  cases segment with
  | text run =>
    refine ⟨front, after.rest, by rw [spelled, rest]; rfl, offset, ?_⟩
    rw [← offset]
    rfl
  | token name offset' =>
    have bracket : byteLength (front ++ ['<']) = cursor.offset + 1 := by
      rw [byteLength_append, offset]
      rfl
    refine ⟨front ++ ['<'], '>' :: after.rest, ?_, bracket.symm, ?_⟩
    · rw [spelled, rest]
      simp [source, cutOut]
    · rw [bracket]
      rfl

theorem ofSegment_rebuilds :
    (if (Piece.ofSegment cursor.offset segment).isToken
      then Segment.token (String.ofList (cutOut segment)) cursor.offset
      else .text (String.ofList (cutOut segment))) = segment := by
  cases segment with
  | text run => simp [Piece.ofSegment, cutOut]
  | token name offset =>
    rw [(Cursor.token_of_next? read).2]
    simp [Piece.ofSegment, cutOut]

end

/-- **Bytes are read as characters are**: nothing is cut in the wrong place. -/
theorem next_eq {cursor : Cursor} (stands : StandsIn body cursor) :
    next body cursor.offset =
      .ok (cursor.next?.map fun read => (read.1, read.2.offset)) := by
  rw [Stored.next, piece?_eq stands]
  cases read : cursor.next? with
  | none => rfl
  | some found =>
    obtain ⟨segment, after⟩ := found
    obtain ⟨front, behind, spelled, first, last⟩ := ofSegment_stands read stands
    simp only [Option.map_some, first, last, cut_eq_ok spelled, behind_ofSegment read]
    exact congrArg (fun segment => Except.ok (some (segment, after.offset)))
      (ofSegment_rebuilds read)

/-! ## Whole runs -/

theorem Reached.step_next? {cursor after : Cursor} {segment : Segment}
    (stands : StandsIn body cursor) (reached : Reached body cursor.offset)
    (read : cursor.next? = some (segment, after)) : Reached body after.offset := by
  have result : next body cursor.offset = .ok (some (segment, after.offset)) := by
    rw [next_eq stands, read]
    rfl
  exact .step reached result

/-- Reading never stops inside a character. -/
theorem Reached.standsIn {place : Nat} (reached : Reached body place) :
    ∃ cursor, StandsIn body cursor ∧ cursor.offset = place := by
  induction reached with
  | start => exact ⟨_, standsIn_start body, rfl⟩
  | step _ read ih =>
    obtain ⟨cursor, stands, rfl⟩ := ih
    rw [next_eq stands] at read
    cases found : cursor.next? with
    | none => simp [found] at read
    | some next =>
      simp only [found, Option.map_some, Except.ok.injEq, Option.some.injEq, Prod.mk.injEq] at read
      exact ⟨next.2, stands.next found, read.2⟩

/-- Reading the bytes comes to an end, with the segments of the characters. -/
theorem reads_segments {cursor : Cursor} (stands : StandsIn body cursor) :
    Reads body cursor.offset cursor.segments := by
  fun_induction Cursor.segments with
  | case1 cursor ended => exact .ended (by rw [next_eq stands, ended]; rfl)
  | case2 cursor segment after read ih =>
    exact .more (by rw [next_eq stands, read]; rfl) (ih (stands.next read))

/-- A piece at `place` leads forward, and both it and what is cut out for it end within the
body.  What is cut out is not empty and starts and ends between characters. -/
structure Piece.Inside (body : String) (place : Nat) (piece : Piece) : Prop where
  forward : place < piece.behind
  behind_le : piece.behind ≤ body.utf8ByteSize
  filled : piece.first < piece.last
  last_le : piece.last ≤ body.utf8ByteSize
  first_isValid : String.Pos.Raw.IsValid body ⟨piece.first⟩
  last_isValid : String.Pos.Raw.IsValid body ⟨piece.last⟩

theorem byteLength_pos {cs : List Char} (filled : cs ≠ []) : 0 < byteLength cs := by
  obtain ⟨c, rest, rfl⟩ := List.exists_cons_of_ne_nil filled
  exact Nat.add_pos_left (Char.utf8Size_pos c) _

theorem inside_ofSegment {cursor after : Cursor} {segment : Segment} (stands : StandsIn body cursor)
    (read : cursor.next? = some (segment, after)) :
    (Piece.ofSegment cursor.offset segment).Inside body cursor.offset := by
  obtain ⟨front, behind, spelled, first, last⟩ := ofSegment_stands read stands
  obtain ⟨-, nonempty, place⟩ := Cursor.source_next? read
  have stop := behind_ofSegment read
  obtain ⟨front', spelled', offset'⟩ := stands.next read
  have size := byteLength_toList body
  have size' := size
  rw [spelled, byteLength_append, byteLength_append] at size
  rw [spelled', byteLength_append] at size'
  have positive := byteLength_pos (cutOut_ne_nil read)
  have positive' := byteLength_pos nonempty
  refine ⟨?_, ?_, ?_, ?_, ?_, ?_⟩
  · omega
  · omega
  · omega
  · omega
  · rw [first]
    exact isValid_of_append spelled
  · rw [last, ← byteLength_append]
    exact isValid_of_append (by rw [spelled, List.append_assoc])

/-- **Reading never leaves the body.**  It comes to an end, with the segments of the body.
Wherever it stops on its way, either the body ends there, or the piece that is read there
stays inside and is cut out without fault. -/
theorem reading_stays_inside (body : String) :
    Reads body 0 (ofBody body) ∧
    ∀ place, Reached body place →
      (next body place = .ok none ∧ place = body.utf8ByteSize) ∨
      ∃ piece segment, piece? (bytes body) place = some piece ∧ piece.Inside body place ∧
        next body place = .ok (some (segment, piece.behind)) := by
  refine ⟨reads_segments (standsIn_start body), fun place reached => ?_⟩
  obtain ⟨cursor, stands, rfl⟩ := reached.standsIn
  have result := next_eq stands
  have here := piece?_eq stands
  cases read : cursor.next? with
  | none =>
    obtain ⟨front, spelled, offset⟩ := stands
    rw [Cursor.rest_eq_nil_of_next? read, List.append_nil] at spelled
    rw [read] at result
    exact .inl ⟨result, by rw [offset, ← spelled, byteLength_toList]⟩
  | some found =>
    obtain ⟨segment, after⟩ := found
    rw [read] at result here
    rw [Option.map_some, ← behind_ofSegment read] at result
    exact .inr ⟨_, segment, here, inside_ofSegment stands read, result⟩

/-- Behind a token, in front of a character of two bytes and of an unfinished token. -/
theorem reading_stays_inside_accents :
    let body := "é<A>ß<B"
    Reached body 5 ∧
    ((next body 5 = .ok none ∧ 5 = body.utf8ByteSize) ∨
      ∃ piece segment, piece? (bytes body) 5 = some piece ∧ piece.Inside body 5 ∧
        next body 5 = .ok (some (segment, piece.behind))) := by
  intro body
  have reached : Reached body 5 := by
    have accent : Cursor.next? ⟨0, body.toList⟩ =
        some (.text "é", ⟨2, ['<', 'A', '>', 'ß', '<', 'B']⟩) := by
      rw [show body.toList = ['é', '<', 'A', '>', 'ß', '<', 'B'] by decide]
      rfl
    have token : Cursor.next? ⟨2, ['<', 'A', '>', 'ß', '<', 'B']⟩ =
        some (.token "A" 2, ⟨5, ['ß', '<', 'B']⟩) := by
      rfl
    have start := standsIn_start body
    exact .step_next? (start.next accent) (.step_next? start .start accent) token
  exact ⟨reached, (reading_stays_inside body).2 5 reached⟩

end Stored

end ListOps
