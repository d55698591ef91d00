/-
# ListOps.Proofs.CommandLine.Destination -- what a command leaves alone

A command changes the disk only if it has a destination and a file is generated for
it.  The changes are the two that a `Storage` offers.  What is taken for granted
about them is `Storage.Careful`: making directories only adds directories, and
writing either spares what is there or replaces the one file that the path names.
The modelled disk is careful (`Storage.careful_modelled`).

Each of the two changes keeps all entries but the one at the destination
(`Disk.OnlyTouches`), and so do both one after the other, however far they get
(`Storage.Careful.deliver`).
-/
import ListOps.CommandLine.Plan
import ListOps.Proofs.SourceFile.Verdict
import ListOps.Proofs.Storage.Disk

namespace ListOps

set_option autoImplicit false

namespace CommandLine

/-! ## Careful storages -/

namespace Storage

/-- What is taken for granted about the changes that a storage makes. -/
structure Careful (storage : Storage) : Prop where
  makeDirectories (disk : Disk) (path : String) :
    disk.AddsDirectories (storage.makeDirectories disk path).1
  failed {disk : Disk} {path content reason : String} :
    (storage.write disk path content).2 = .error reason →
      disk.Spares (storage.write disk path content).1 (disk.named path)
  written {disk : Disk} {path content : String} :
    (storage.write disk path content).2 = .ok () →
      disk.Replaces (storage.write disk path content).1 (disk.named path) content

theorem careful_modelled : modelled.Careful where
  makeDirectories disk path := disk.addsDirectories_makeDirectories (path :: Path.ancestors path)
  failed {disk path content reason} failed := by
    unfold modelled at failed ⊢
    cases attempt : disk.write path content with
    | ok after => simp [attempt] at failed
    | error error =>
      simp only [attempt]
      exact ⟨disk.keeps_refl, fun _ _ => rfl⟩
  written {disk path content} written := by
    unfold modelled at written ⊢
    cases attempt : disk.write path content with
    | ok after =>
      simp only [attempt]
      exact Disk.replaces_of_write attempt
    | error error => simp [attempt] at written

/-- The disk after making the directory around a file, and whether that failed. -/
def surround (storage : Storage) (disk : Disk) (path : String) : Disk × Except String Unit :=
  match Path.directory? path with
  | none => (disk, .ok ())
  | some directory => storage.makeDirectories disk directory

variable {storage : Storage}

theorem Careful.surround (careful : storage.Careful) (disk : Disk) (path : String) :
    disk.AddsDirectories (storage.surround disk path).1 := by
  unfold Storage.surround
  split
  · exact disk.addsDirectories_refl
  · exact careful.makeDirectories disk _

end Storage

/-! ## Plans of commands -/

namespace Plan

variable {command : Command} (storage : Storage) (disk : Disk)

/-- Where nothing was generated, that is all there is to say. -/
theorem performOn_of_error {error : GenerateError} (failed : command.generated = .error error) :
    ∃ stderr, (ofCommand command).performOn storage disk = (.failure stderr, disk) := by
  rw [ofCommand, failed]
  exact ⟨_, rfl⟩

theorem performOn_of_generated {file : SourceFile} (made : command.generated = .ok file) :
    (ofCommand command).performOn storage disk =
      (deliver file command.destination?).performOn storage disk := by
  rw [ofCommand, made]

/-- A file without a destination is printed. -/
theorem performOn_of_printed {file : SourceFile} (made : command.generated = .ok file)
    (nowhere : command.destination? = none) :
    (ofCommand command).performOn storage disk = (.success file.text, disk) := by
  rw [performOn_of_generated storage disk made, nowhere]
  rfl

theorem performAll_cons_of_ok {report : Report} {action : Action} {rest : List Action}
    (done : (action.perform storage disk).2 = .ok ()) :
    performAll storage report (action :: rest) disk =
      performAll storage report rest (action.perform storage disk).1 := by
  rw [performAll]
  split
  · rename_i after performed
    rw [performed]
  · rename_i after reason performed
    rw [performed] at done
    contradiction

theorem performAll_cons_of_error {report : Report} {action : Action} {rest : List Action}
    {reason : String} (failed : (action.perform storage disk).2 = .error reason) :
    performAll storage report (action :: rest) disk =
      (.failure (action.failure reason), (action.perform storage disk).1) := by
  rw [performAll]
  split
  · rename_i after performed
    rw [performed] at failed
    contradiction
  · rename_i after reason' performed
    rw [performed] at failed ⊢
    rw [Except.error.inj failed]

variable (file : SourceFile) (path : String)

/-- Storing a file ends early if the directory around it cannot be made. -/
theorem performOn_deliver_of_error {reason : String}
    (failed : (storage.surround disk path).2 = .error reason) :
    ∃ stderr, (deliver file (some path)).performOn storage disk =
      (.failure stderr, (storage.surround disk path).1) := by
  unfold Storage.surround at failed ⊢
  cases around : Path.directory? path with
  | none => simp [around] at failed
  | some directory =>
    rw [around] at failed
    rw [performOn, deliver, around]
    exact ⟨_, performAll_cons_of_error storage disk failed⟩

/-- Otherwise the file is written next. -/
theorem performOn_deliver_of_ok (done : (storage.surround disk path).2 = .ok ()) :
    (deliver file (some path)).performOn storage disk =
      performAll storage (.success "") [.write path file.text] (storage.surround disk path).1 := by
  unfold Storage.surround at done ⊢
  cases around : Path.directory? path with
  | none =>
    rw [performOn, deliver, around]
    rfl
  | some directory =>
    rw [around] at done
    rw [performOn, deliver, around]
    exact performAll_cons_of_ok storage disk done

/-- How far storing a file can get. -/
theorem performOn_deliver_cases :
    let surrounded := storage.surround disk path
    let written := storage.write surrounded.1 path file.text
    (∃ reason stderr, surrounded.2 = .error reason ∧
      (deliver file (some path)).performOn storage disk = (.failure stderr, surrounded.1)) ∨
    (∃ reason stderr, surrounded.2 = .ok () ∧ written.2 = .error reason ∧
      (deliver file (some path)).performOn storage disk = (.failure stderr, written.1)) ∨
    (surrounded.2 = .ok () ∧ written.2 = .ok () ∧
      (deliver file (some path)).performOn storage disk = (.success "", written.1)) := by
  intro surrounded written
  cases made : surrounded.2 with
  | error reason =>
    obtain ⟨stderr, performed⟩ := performOn_deliver_of_error storage disk file path made
    exact .inl ⟨reason, stderr, rfl, performed⟩
  | ok =>
    have next := performOn_deliver_of_ok storage disk file path made
    cases stored : written.2 with
    | error reason =>
      refine .inr (.inl ⟨reason, (Action.write path file.text).failure reason, rfl, rfl,
        next.trans ?_⟩)
      exact performAll_cons_of_error storage _ stored
    | ok =>
      refine .inr (.inr ⟨rfl, rfl, next.trans ?_⟩)
      exact performAll_cons_of_ok storage _ stored

end Plan

/-! ## The outcome -/

namespace Storage

variable {storage : Storage}

/-- Storing a file touches nothing but the place that the path names. -/
theorem Careful.deliver (careful : storage.Careful) (disk : Disk) (file : SourceFile)
    (path : String) :
    let outcome := (Plan.deliver file (some path)).performOn storage disk
    let surrounded := storage.surround disk path
    let written := storage.write surrounded.1 path file.text
    outcome.1.stdout = "" ∧ disk.OnlyTouches outcome.2 (disk.named path) ∧
      (outcome.1.exit = 1 ∧ disk.Keeps outcome.2 ∧
          ¬ (surrounded.2 = .ok () ∧ written.2 = .ok ()) ∨
        outcome.1.exit = 0 ∧ outcome.2.get? (disk.named path) = some (.file file.text) ∧
          surrounded.2 = .ok () ∧ written.2 = .ok ()) := by
  intro outcome surrounded written
  have adds : disk.AddsDirectories surrounded.1 := careful.surround disk path
  have same : surrounded.1.named path = disk.named path := by
    simp only [Disk.named, Disk.start, adds.workingDirectory]
  have touched := adds.onlyTouches (disk.named path)
  rcases Plan.performOn_deliver_cases storage disk file path with
    ⟨reason, stderr, failed, performed⟩ | ⟨reason, stderr, made, failed, performed⟩ |
    ⟨made, stored, performed⟩
  · simp only [outcome, performed]
    refine ⟨rfl, touched, .inl ⟨rfl, adds.keeps, fun both => ?_⟩⟩
    exact absurd (failed.symm.trans both.1) (by simp)
  · have spares := careful.failed failed
    rw [same] at spares
    simp only [outcome, performed]
    refine ⟨rfl, touched.trans spares.onlyTouches,
      .inl ⟨rfl, adds.keeps.trans spares.keeps, fun both => ?_⟩⟩
    exact absurd (failed.symm.trans both.2) (by simp)
  · have replaces := careful.written stored
    rw [same] at replaces
    simp only [outcome, performed]
    exact ⟨rfl, touched.trans replaces.onlyTouches, .inr ⟨rfl, replaces.content, made, stored⟩⟩

end Storage

/-- **A command touches nothing but its destination.**  Where nothing can be generated,
it fails with nothing printed and nothing changed, whether or not it has a destination.
Without a destination, it prints the file and changes nothing.

With one, it prints nothing, and all that was there stays, but for the content of the
file that the destination names.  It succeeds just when the directory around that file,
in which the last part of the path is looked up, and the file itself could be made.
Then the file holds exactly what is printed by the same command without a destination,
and otherwise it is what it was. -/
theorem perform_touches_destination_only (command : Command) {storage : Storage}
    (careful : storage.Careful) (disk : Disk) :
    let outcome := (Plan.ofCommand command).performOn storage disk
    (∀ error, command.generated = .error error →
      outcome.1.exit = 1 ∧ outcome.1.stdout = "" ∧ outcome.2 = disk) ∧
    (∀ file, command.generated = .ok file → command.destination? = none →
      outcome.1.exit = 0 ∧ outcome.1.stdout = file.text ∧ outcome.2 = disk) ∧
    ∀ file path, command.generated = .ok file → command.destination? = some path →
      let surrounded := storage.surround disk path
      let written := storage.write surrounded.1 path file.text
      let printed := (Plan.ofCommand command.printing).performOn storage disk
      (∃ last ∈ Path.parts path, disk.named path = (disk.around path).follow last) ∧
      outcome.1.stdout = "" ∧ disk.OnlyTouches outcome.2 (disk.named path) ∧
      (outcome.1.exit = 0 ∨ outcome.1.exit = 1 ∧ disk.Keeps outcome.2) ∧
      (outcome.1.exit = 0 ↔ surrounded.2 = .ok () ∧ written.2 = .ok ()) ∧
      printed = (.success file.text, disk) ∧
      (outcome.1.exit = 0 →
        outcome.2.get? (disk.named path) = some (.file printed.1.stdout)) := by
  intro outcome
  refine ⟨fun error failed => ?_, fun file made nowhere => ?_, fun file path made somewhere => ?_⟩
  · obtain ⟨stderr, reported⟩ : ∃ stderr, outcome = (.failure stderr, disk) :=
      Plan.performOn_of_error storage disk failed
    rw [reported]
    exact ⟨rfl, rfl, rfl⟩
  · have printed : outcome = (.success file.text, disk) :=
      Plan.performOn_of_printed storage disk made nowhere
    rw [printed]
    exact ⟨rfl, rfl, rfl⟩
  · intro surrounded written printed
    have delivered : outcome = (Plan.deliver file (some path)).performOn storage disk := by
      rw [← somewhere]
      exact Plan.performOn_of_generated storage disk made
    have shown : printed = (.success file.text, disk) :=
      Plan.performOn_of_printed storage disk (command.generated_printing.trans made)
        command.destination?_printing
    obtain ⟨silent, touched, ends⟩ := careful.deliver disk file path
    rw [← delivered] at silent touched ends
    refine ⟨disk.named_eq_follow path, silent, touched, ?_, ?_, shown, fun succeeded => ?_⟩
    · rcases ends with ⟨failed, keeps, -⟩ | ⟨succeeded, -⟩
      · exact .inr ⟨failed, keeps⟩
      · exact .inl succeeded
    · rcases ends with ⟨failed, -, not⟩ | ⟨succeeded, -, both⟩
      · exact iff_of_false (by simp [failed]) not
      · exact iff_of_true succeeded both
    · rcases ends with ⟨failed, -⟩ | ⟨-, content, -⟩
      · simp [succeeded] at failed
      · rw [content, shown]
        rfl

/-- A path that leads through a directory still to be made, and back, replaces the
file that was there before and leaves the other one alone. -/
theorem perform_touches_destination_only_detour :
    let command : Command := .generate "hr" "T" none false (some "d/./../f")
    let disk : Disk := ⟨[(["f"], .file "old"), (["g"], .file "kept")], []⟩
    let outcome := (Plan.ofCommand command).performOn .modelled disk
    Storage.modelled.Careful ∧
    ∃ file, command.generated = .ok file ∧
      outcome.1.exit = 0 ∧ outcome.1.stdout = "" ∧
      outcome.2.get? ["f"] = some (.file file.text) ∧
      outcome.2.get? ["g"] = some (.file "kept") ∧
      (Plan.ofCommand command.printing).performOn .modelled disk = (.success file.text, disk) := by
  intro command disk
  obtain ⟨file, made⟩ : ∃ file, command.generated = .ok file := by
    have valid : (Command.request "hr" "T" none false).validate = .ok () :=
      Request.validate_eq_ok _ (by decide +kernel) (by decide +kernel)
    exact ⟨_, by rw [Command.generated, Request.generate_eq, valid]⟩
  have named : disk.named "d/./../f" = ["f"] := by decide +kernel
  have surrounded : (Storage.modelled.surround disk "d/./../f").2 = .ok () := by rfl
  have stored : ∀ text, (Storage.modelled.write
      (Storage.modelled.surround disk "d/./../f").1 "d/./../f" text).2 = .ok () :=
    fun text => by rfl
  have touches := perform_touches_destination_only command Storage.careful_modelled disk
  -- so that no step looks into the run itself
  generalize (Plan.ofCommand command).performOn .modelled disk = outcome at touches ⊢
  obtain ⟨-, silent, only, -, succeeds, printed, content⟩ :=
    touches.2.2 file "d/./../f" made rfl
  have succeeded : outcome.1.exit = 0 := succeeds.mpr ⟨surrounded, stored file.text⟩
  have replaced := content succeeded
  rw [printed, named] at replaced
  rw [named] at only
  exact ⟨Storage.careful_modelled, file, made, succeeded, silent, replaced,
    only.kept ["g"] (by decide) _ (by decide +kernel), printed⟩

end CommandLine

end ListOps
