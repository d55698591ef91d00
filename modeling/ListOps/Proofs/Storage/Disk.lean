/-
# ListOps.Proofs.Storage.Disk -- what changes leave alone

There are no links, so the place that a path names can be read off its parts
(`Disk.named`), whatever there is on the way.  The directory around a file is the one
that the last part of its path is looked up in (`Disk.named_eq_follow`).  A file is
written at the place that its path names, and everything else stays
(`Disk.replaces_of_write`).  Making directories may fail half
way, but all that was there stays as it was, and all that came is directories
(`Disk.addsDirectories_makeDirectories`).  Both keep all entries but the one at a
place that is given (`Disk.OnlyTouches`), and so do changes one after the other.
-/
import ListOps.Proofs.Storage.Path
import ListOps.Storage.Disk

namespace ListOps

set_option autoImplicit false

/-! ## The place that a path names -/

/-- Where one part of a path leads. -/
def Place.follow (place : Place) (part : String) : Place :=
  if part = "" ∨ part = "." then place
  else if part = ".." then place.tail
  else part :: place

theorem Place.follow_of_idle (place : Place) {part : String} (idle : Path.Idle part) :
    place.follow part = place :=
  if_pos idle

theorem Place.foldl_follow_of_idle (place : Place) {parts : List String}
    (idle : ∀ part ∈ parts, Path.Idle part) : parts.foldl Place.follow place = place := by
  induction parts with
  | nil => rfl
  | cons part rest ih =>
    rw [List.forall_mem_cons] at idle
    rw [List.foldl_cons, place.follow_of_idle idle.1, ih idle.2]

namespace Disk

/-- The place that a path names: that of the file, if it is the path of one. -/
def named (disk : Disk) (path : String) : Place :=
  (Path.parts path).foldl Place.follow (disk.start path)

example : (Disk.mk [] ["work"]).named "a/./b//../c" = ["c", "a", "work"] ∧
    (Disk.mk [] ["work"]).named "/x/../../y" = ["y"] := by
  decide +kernel

variable {disk middle after : Disk} {place next : Place} {path content : String}

theorem enter_eq_ok {part : String} (entered : disk.enter place part = .ok next) :
    next = place.follow part := by
  unfold enter at entered
  unfold Place.follow
  split at entered
  · rename_i stays
    rw [if_pos stays]
    exact (Except.ok.inj entered).symm
  · rename_i moves
    rw [if_neg moves]
    split at entered
    · rename_i up
      rw [if_pos up]
      exact (Except.ok.inj entered).symm
    · rename_i down
      rw [if_neg down]
      split at entered
      · exact (Except.ok.inj entered).symm
      all_goals contradiction

theorem walk_eq_ok {parts : List String} (walked : disk.walk place parts = .ok next) :
    next = parts.foldl Place.follow place := by
  induction parts generalizing place with
  | nil => exact (Except.ok.inj walked).symm
  | cons part rest ih =>
    rw [walk, List.foldlM_cons] at walked
    cases entered : disk.enter place part with
    | error error =>
      rw [entered] at walked
      contradiction
    | ok inner =>
      rw [entered] at walked
      rw [List.foldl_cons, ← enter_eq_ok entered]
      exact ih walked

theorem follow_of_not_isStep {part : String} (name : isStep part = false) :
    place.follow part = part :: place := by
  simp only [isStep, Bool.or_eq_false_iff, decide_eq_false_iff_not] at name
  rw [Place.follow, if_neg (by simp [name]), if_neg name.2]

/-- The last part of a path is found where the path leads. -/
theorem target_of_locate {location : Location} (located : disk.locate path = .ok location)
    (name : isStep location.last = false) (unclosed : location.closed = false) :
    location.target = disk.named path := by
  unfold locate at located
  simp only at located
  split at located
  · contradiction
  · cases backward : (Path.parts path).reverse with
    | nil =>
      rw [backward] at located
      cases located
      simp at unclosed
    | cons last above =>
      rw [backward] at located
      by_cases empty : last = ""
      -- an empty last part closes the path
      · simp only [empty] at located
        split at located
        · cases located
          simp at unclosed
        · split at located
          · cases located
            simp at unclosed
          · contradiction
      · rw [List.dropWhile_cons_of_neg (by simpa using empty)] at located
        simp only at located
        cases walked : disk.walk (disk.start path) above.reverse with
        | error error =>
          rw [walked] at located
          contradiction
        | ok place =>
          rw [walked] at located
          cases located
          have parts : Path.parts path = above.reverse ++ [last] := by
            rw [← List.reverse_reverse (Path.parts path), backward, List.reverse_cons]
          rw [named, parts, List.foldl_append, ← walk_eq_ok walked, List.foldl_cons,
            List.foldl_nil, follow_of_not_isStep name]
          rfl

/-! ## The directory around a file -/

/-- Where the last part of a path is looked up: in the directory that the path mentions,
or else where the path starts. -/
def around (disk : Disk) (path : String) : Place :=
  match Path.directory? path with
  | some directory => disk.named directory
  | none => disk.start path

theorem named_of_endsIn {front : List String} {last : String}
    (ends : Path.EndsIn (Path.parts path) front last) :
    disk.named path = (front.foldl Place.follow (disk.start path)).follow last := by
  obtain ⟨idle, parts, idles, -⟩ := ends
  rw [named, parts, List.foldl_append, List.foldl_cons, Place.foldl_follow_of_idle _ idles]

/-- A beginning of a path starts where the path does. -/
theorem start_ofParts {front rest : List String} {last : String}
    (begins : Path.parts path = front ++ last :: rest) (inner : front ≠ [] ∨ last ≠ "")
    (parts : Path.parts (Path.ofParts (last :: front.reverse)) = front ++ [last]) :
    disk.start (Path.ofParts (last :: front.reverse)) = disk.start path := by
  have same : Path.isAbsolute (Path.ofParts (last :: front.reverse)) = Path.isAbsolute path := by
    rw [Bool.eq_iff_iff, Path.isAbsolute_iff, Path.isAbsolute_iff, parts, begins]
    cases front with
    | nil => simp [inner.resolve_left (not_not_intro rfl)]
    | cons part front => simp
  rw [start, start, same]

/-- The directory up to a part of a path is named by the parts up to there. -/
theorem named_ofParts {front rest : List String} {last : String} (more : rest ≠ [])
    (begins : Path.parts path = front ++ last :: rest) :
    disk.named (Path.ofParts (last :: front.reverse)) =
      (front ++ [last]).foldl Place.follow (disk.start path) := by
  by_cases root : front = [] ∧ last = ""
  · obtain ⟨rfl, rfl⟩ := root
    have absolute : Path.isAbsolute path = true := Path.isAbsolute_iff.mpr ⟨rest, more, begins⟩
    rw [start, if_pos absolute]
    rfl
  · have inner : front ≠ [] ∨ last ≠ "" := Decidable.not_and_iff_not_or_not.mp root
    have pieces : ∀ piece ∈ front ++ [last], '/' ∉ piece.toList := by
      intro piece member
      have inside : piece ∈ Path.parts path := by
        rw [begins, List.append_cons]
        exact List.mem_append_left rest member
      exact Path.not_mem_of_mem_parts inside
    have text : Path.ofParts (last :: front.reverse) = "/".intercalate (front ++ [last]) := by
      rw [Path.ofParts, if_neg (by simpa [and_comm] using root), List.reverse_cons,
        List.reverse_reverse]
    have parts : Path.parts (Path.ofParts (last :: front.reverse)) = front ++ [last] := by
      rw [text]
      exact Path.parts_intercalate (by simp) pieces
    rw [named, parts, start_ofParts begins inner parts]

/-- **The directory around a file is the one that the last part of its path is looked up
in.** -/
theorem named_eq_follow (disk : Disk) (path : String) :
    ∃ last ∈ Path.parts path, disk.named path = (disk.around path).follow last := by
  cases mentioned : Path.directory? path with
  | none =>
    obtain ⟨last, ends⟩ := Path.directory?_eq_none_iff.mp mentioned
    have leads : disk.named path = (disk.start path).follow last := named_of_endsIn ends
    obtain ⟨idle, parts, -⟩ := ends
    refine ⟨last, by simp [parts], ?_⟩
    rw [around, mentioned, leads]
  | some directory =>
    obtain ⟨inFront, last, front, counting, ends, ends', rfl⟩ :=
      Path.directory?_eq_some_iff.mp mentioned
    have leads : disk.named path = (inFront.foldl Place.follow (disk.start path)).follow last :=
      named_of_endsIn ends
    obtain ⟨idle, parts, -⟩ := ends
    obtain ⟨idle', inner, idles', -⟩ := ends'
    have begins : Path.parts path = front ++ counting :: (idle' ++ last :: idle) := by
      rw [parts, inner, List.append_assoc, List.cons_append]
    refine ⟨last, by simp [parts], ?_⟩
    rw [around, mentioned, leads]
    dsimp only
    rw [named_ofParts (by simp) begins, inner, List.foldl_append, List.foldl_cons,
      Place.foldl_follow_of_idle _ idles', List.foldl_append]
    rfl

/-! ## Files -/

/-- `after` holds `content` at a place that is no directory, and is the same
everywhere else. -/
structure Replaces (disk after : Disk) (place : Place) (content : String) : Prop where
  noDirectory : disk.get? place ≠ some .directory
  content : after.get? place = some (.file content)
  elsewhere : ∀ other ≠ place, after.get? other = disk.get? other

/-- A file that is written replaces the one that its path names. -/
theorem replaces_of_write (written : disk.write path content = .ok after) :
    disk.Replaces after (disk.named path) content := by
  obtain ⟨location, located, name, unclosed, noDirectory, rfl⟩ := put_of_write written
  rw [← target_of_locate located name unclosed]
  exact ⟨noDirectory, get?_put_self disk _ (List.cons_ne_nil _ _),
    fun other ne => get?_put_of_ne disk _ ne⟩

/-! ## Directories -/

/-- Everything that was there is there as it was. -/
def Keeps (disk after : Disk) : Prop :=
  ∀ place entry, disk.get? place = some entry → after.get? place = some entry

theorem keeps_refl (disk : Disk) : disk.Keeps disk :=
  fun _ _ found => found

theorem Keeps.trans (first : disk.Keeps middle) (second : middle.Keeps after) :
    disk.Keeps after :=
  fun place entry found => second place entry (first place entry found)

/-- Everything that was there is there as it was, and the rest is directories. -/
structure AddsDirectories (disk after : Disk) : Prop where
  workingDirectory : after.workingDirectory = disk.workingDirectory
  keeps : disk.Keeps after
  added : ∀ place, disk.get? place = none →
    after.get? place = none ∨ after.get? place = some .directory

theorem addsDirectories_refl (disk : Disk) : disk.AddsDirectories disk :=
  ⟨rfl, disk.keeps_refl, fun _ absent => .inl absent⟩

theorem AddsDirectories.trans (first : disk.AddsDirectories middle)
    (second : middle.AddsDirectories after) : disk.AddsDirectories after where
  workingDirectory := second.workingDirectory.trans first.workingDirectory
  keeps := first.keeps.trans second.keeps
  added place absent := by
    rcases first.added place absent with still | directory
    · exact second.added place still
    · exact .inr (second.keeps place .directory directory)

theorem addsDirectories_put (absent : disk.get? place = none) :
    disk.AddsDirectories (disk.put place .directory) := by
  have inner : place ≠ [] := by
    rintro rfl
    simp [get?] at absent
  refine ⟨rfl, fun other entry found => ?_, fun other nothing => ?_⟩
  · have ne : other ≠ place := by
      rintro rfl
      simp [absent] at found
    rw [get?_put_of_ne disk _ ne, found]
  · by_cases same : other = place
    · rw [same, get?_put_self disk _ inner]
      exact .inr rfl
    · rw [get?_put_of_ne disk _ same]
      exact .inl nothing

theorem addsDirectories_settle (disk : Disk) (path : String) :
    disk.AddsDirectories (disk.settle path (disk.makeDirectory path)).1 := by
  cases made : disk.makeDirectory path with
  | error error => exact disk.addsDirectories_refl
  | ok after =>
    obtain ⟨location, -, absent, rfl⟩ := put_of_makeDirectory made
    exact addsDirectories_put absent

/-- **Making directories only adds directories**, even if it fails half way. -/
theorem addsDirectories_makeDirectories (disk : Disk) (paths : List String) :
    disk.AddsDirectories (disk.makeDirectories paths).1 := by
  -- the directories above are made first, and then the one that was missing them
  induction paths with
  | nil => exact disk.addsDirectories_refl
  | cons path above ih =>
    unfold makeDirectories
    split
    · split
      · rename_i outer made
        rw [made] at ih
        exact ih.trans (outer.addsDirectories_settle path)
      · exact ih
    · exact disk.addsDirectories_settle path

/-! ## All but one place -/

/-- A write that failed: everything that was there stays as it was, and at most
something new is at the one place. -/
structure Spares (disk after : Disk) (place : Place) : Prop where
  keeps : disk.Keeps after
  elsewhere : ∀ other ≠ place, after.get? other = disk.get? other

/-- Away from one place, everything that was there stays as it was, and the rest is
directories.  At that place, a file may have another content. -/
structure OnlyTouches (disk after : Disk) (place : Place) : Prop where
  kept : ∀ other ≠ place, ∀ entry, disk.get? other = some entry → after.get? other = some entry
  added : ∀ other ≠ place, disk.get? other = none →
    after.get? other = none ∨ after.get? other = some .directory
  touched : ∀ entry, disk.get? place = some entry →
    after.get? place = some entry ∨
      ∃ old new, entry = .file old ∧ after.get? place = some (.file new)

theorem AddsDirectories.onlyTouches (adds : disk.AddsDirectories after) (place : Place) :
    disk.OnlyTouches after place :=
  ⟨fun other _ => adds.keeps other, fun other _ => adds.added other,
    fun entry found => .inl (adds.keeps place entry found)⟩

theorem Spares.onlyTouches (spares : disk.Spares after place) : disk.OnlyTouches after place :=
  ⟨fun other _ => spares.keeps other,
    fun other ne absent => .inl (spares.elsewhere other ne ▸ absent),
    fun entry found => .inl (spares.keeps place entry found)⟩

theorem Replaces.onlyTouches (replaces : disk.Replaces after place content) :
    disk.OnlyTouches after place := by
  refine ⟨fun other ne entry found => ?_, fun other ne absent => ?_, fun entry found => ?_⟩
  · rw [replaces.elsewhere other ne, found]
  · rw [replaces.elsewhere other ne]
    exact .inl absent
  · cases entry with
    | directory => exact absurd found replaces.noDirectory
    | file old => exact .inr ⟨old, content, rfl, replaces.content⟩

theorem OnlyTouches.trans (first : disk.OnlyTouches middle place)
    (second : middle.OnlyTouches after place) : disk.OnlyTouches after place := by
  refine ⟨fun other ne entry found => ?_, fun other ne absent => ?_, fun entry found => ?_⟩
  · exact second.kept other ne entry (first.kept other ne entry found)
  · rcases first.added other ne absent with still | directory
    · exact second.added other ne still
    · exact .inr (second.kept other ne .directory directory)
  · rcases first.touched entry found with same | ⟨old, new, rfl, replaced⟩
    · exact second.touched entry same
    · rcases second.touched (.file new) replaced with same | ⟨-, newer, -, replaced'⟩
      · exact .inr ⟨old, new, rfl, same⟩
      · exact .inr ⟨old, newer, rfl, replaced'⟩

end Disk

end ListOps
