/-
Module: VirtLifecycle.Proofs.Command.Execute
Purpose: Commands and what they write. Everything that a command does is done before it writes, so whatever
  device its output goes to, it makes the calls and leaves the cluster that its deed does, which writes
  nothing. If the deed fails, nothing is written; otherwise it comes to a report, and a device takes the
  first bytes of the text of that report, as many as it has room for. A text that is cut off is the only
  failure that comes from writing.
Main exports: Command.Report, Command.Report.text, Command.deed, Command.Told, Command.alike_execute,
  Command.Delivered, Command.failing_output_changes_no_deed
-/
import VirtLifecycle.Cluster.InMemory
import VirtLifecycle.Command.Execute
import VirtLifecycle.Proofs.Command.Writing
import VirtLifecycle.Proofs.Operation
import VirtLifecycle.Proofs.Plan.Alike

namespace VirtLifecycle

namespace Command

/-! ### What there is to tell -/

/-- What a command tells of: an object that it has created under an id, an object that it has come to, or the
id of an object that it has deleted. -/
inductive Report where
  | created {kind : Kind} (id : ResourceId) (object : Resource kind)
  | shown {kind : Kind} (object : Resource kind)
  | deleted (kind : Kind) (id : ResourceId)

/-- The text of a report: a line for what has been created or deleted, with the name of its kind and its id,
and the object as a YAML document of its encoding. -/
def Report.text : Report → String
  | @created kind id object =>
    "created " ++ kind.name ++ " " ++ id.text ++ "\n" ++ Yaml.print object.encode
  | shown object => Yaml.print object.encode
  | deleted kind id => "deleted " ++ kind.name ++ " " ++ id.text ++ "\n"

/-- What a command does, without an output: it reads its manifest, if it has one, and carries out one
operation on the cluster, whose result it reports. -/
def deed (config : Config) (files : Files) : Command → Operation Report
  | create path => do
    let text ← Operation.ofExcept ((files.text path).mapError .file)
    let manifest ← Operation.ofExcept (Manifest.ofText text)
    let (id, object) ← Lifecycle.create config manifest.object
    return .created id object
  | read kind id => do
    let object ← Lifecycle.read kind id
    return .shown object
  | delete kind id => do
    Lifecycle.delete config kind id
    return .deleted kind id
  | waitRunning id seconds => do
    let object ← Lifecycle.awaitRunning config id (.ofSeconds seconds)
    return .shown object

/-! ### Writing as it goes along -/

open Writing (puts)

variable {σ δ : Type} {device : Device δ} {before : Written δ}

/-- What is left when a command comes to an end, where its deed ends at the same time: the output as it was
if the deed fails, and otherwise what the device does to the pieces of the text of the report. -/
inductive Told (device : Device δ) (before : Written δ) :
    Except LifecycleError Report × Nat → (Except LifecycleError Unit × Written δ) × Nat → Prop where
  | failed {error : LifecycleError} {now : Nat} :
      Told device before (.error error, now) ((.error error, before), now)
  | told {report : Report} {pieces : List String} {now : Nat}
      (spelled : Text.bytes report.text = pieces.flatMap Text.bytes) :
      Told device before (.ok report, now)
        (((device.writeAll before pieces).1.mapError .file, (device.writeAll before pieces).2), now)

/-- An operation whose result is told in pieces is like the one that comes to a report with the text of these
pieces. -/
theorem alike_telling {α : Type} (operation : Operation α) {report : α → Report} {pieces : α → List String}
    (spelled : ∀ a, Text.bytes (report a).text = (pieces a).flatMap Text.bytes) (before : Written δ)
    (now : Nat) :
    Plan.Alike (Told device before) ((operation >>= fun a => Operation.succeed (report a)) now)
      ((Writing.ofOperation operation >>= fun a => puts device (pieces a)) before now) := by
  rw [Operation.bind_apply, Writing.bind_apply, Writing.ofOperation, Plan.map, Plan.bind_assoc]
  apply (Plan.Alike.refl (operation now)).bind
  rintro ⟨result, now⟩ _ rfl
  cases result with
  | error e => exact .done .failed
  | ok a => exact .done (.told (spelled a))

/-- What can fail before an operation, without a call, fails the deed and the command alike. -/
theorem alike_ofExcept {α : Type} (first : Except LifecycleError α) {next : α → Operation Report}
    {telling : α → Writing δ Unit} {now : Nat}
    (alike : ∀ a, Plan.Alike (Told device before) (next a now) (telling a before now)) :
    Plan.Alike (Told device before) ((Operation.ofExcept first >>= next) now)
      ((Writing.ofOperation (Operation.ofExcept first) >>= telling) before now) := by
  cases first with
  | error e => exact .done .failed
  | ok a => exact alike a

/-- The line and the object are written one after the other, which comes to writing their texts in turn. -/
theorem alike_create (config : Config) (manifest : Manifest) (before : Written δ) (now : Nat) :
    Plan.Alike (Told device before)
      ((Lifecycle.create config manifest.object >>= fun created =>
        Operation.succeed (.created created.1 created.2)) now)
      (createTelling device config manifest before now) := by
  unfold createTelling
  simp only [Writing.print, Writing.put_eq_puts, Writing.line_bind_puts]
  apply alike_telling
  rintro ⟨id, object⟩
  simp [Report.text, Text.bytes_append]

/-- **A command is like its deed.** It makes the same calls, whatever the replies, and then writes the report. -/
theorem alike_execute (config : Config) (files : Files) (command : Command) (before : Written δ) (now : Nat) :
    Plan.Alike (Told device before) (command.deed config files now)
      (command.execute device config files before now) := by
  cases command with
  | create path =>
    apply alike_ofExcept
    intro text
    apply alike_ofExcept
    intro manifest
    exact alike_create config manifest before now
  | read kind id =>
    rw [deed, execute]
    simp only [Writing.print, Writing.put_eq_puts]
    exact alike_telling _ (fun object => by simp [Report.text]) before now
  | delete kind id =>
    rw [deed, execute]
    simp only [Writing.line_eq_puts]
    exact alike_telling _ (fun _ => by simp [Report.text, Text.bytes_append]) before now
  | waitRunning id seconds =>
    rw [deed, execute]
    simp only [Writing.print, Writing.put_eq_puts]
    exact alike_telling _ (fun object => by simp [Report.text]) before now

/-! ### Devices with limited room -/

/-- What is left when a command comes to an end and its device has taken nothing before and has room for `n`
bytes, where the deed ends at the same time: nothing has been taken if the deed fails, and the failure is the
same; otherwise all bytes of the text of the report have been taken, or the first `n` of them and the writing
has failed. -/
inductive Delivered (n : Nat) (fresh : δ) :
    Except LifecycleError Report × Nat → (Except LifecycleError Unit × Written δ) × Nat → Prop where
  | nothing {error : LifecycleError} {now : Nat} :
      Delivered n fresh (.error error, now) ((.error error, ⟨[], fresh⟩), now)
  | whole {report : Report} {next : δ} {now : Nat} (fits : (Text.bytes report.text).length ≤ n) :
      Delivered n fresh (.ok report, now) ((.ok (), ⟨Text.bytes report.text, next⟩), now)
  | cut {report : Report} {fault : FileFault} {next : δ} {now : Nat}
      (short : n < (Text.bytes report.text).length) :
      Delivered n fresh (.ok report, now)
        ((.error (.file fault), ⟨(Text.bytes report.text).take n, next⟩), now)

/-- What a command tells is delivered in full if the device has room for it, and up to the room that there
is if it has not. -/
theorem Told.delivered {n : Nat} {fresh : δ} {done : Except LifecycleError Report × Nat}
    {left : (Except LifecycleError Unit × Written δ) × Nat} (h : Told device ⟨[], fresh⟩ done left)
    (room : device.HasRoom n fresh) : Delivered n fresh done left := by
  cases h with
  | failed => exact .nothing
  | @told report pieces now spelled =>
    have taken := Device.taken_writeAll room [] pieces
    rw [← spelled] at taken
    generalize device.writeAll ⟨[], fresh⟩ pieces = left at taken
    cases taken with
    | whole fits => exact .whole fits
    | cut short => exact .cut short

/-- A report whose text there is room for has been written, and the command has succeeded. -/
theorem exists_of_delivered_whole {n : Nat} {fresh : δ} {report : Report} {now : Nat}
    {result : Option ((Except LifecycleError Unit × Written δ) × Nat)}
    (delivered : Option.Rel (Delivered n fresh) (some (.ok report, now)) result)
    (fits : (Text.bytes report.text).length ≤ n) :
    ∃ next, result = some ((.ok (), ⟨Text.bytes report.text, next⟩), now) := by
  cases delivered with
  | some left =>
    cases left with
    | @whole _ next => exact ⟨next, rfl⟩
    | cut short => exact absurd fits (Nat.not_le_of_lt short)

/-- A report whose text there is no room for is cut off, and the command has failed for that. -/
theorem exists_of_delivered_cut {n : Nat} {fresh : δ} {report : Report} {now : Nat}
    {result : Option ((Except LifecycleError Unit × Written δ) × Nat)}
    (delivered : Option.Rel (Delivered n fresh) (some (.ok report, now)) result)
    (short : n < (Text.bytes report.text).length) :
    ∃ fault next, result = some ((.error (.file fault), ⟨(Text.bytes report.text).take n, next⟩), now) := by
  cases delivered with
  | some left =>
    cases left with
    | whole fits => exact absurd fits (Nat.not_le_of_lt short)
    | @cut _ fault next => exact ⟨fault, next, rfl⟩

/-- **A failing output never changes what is done.** Whoever answers the calls, a command makes the calls at
the times, and leaves whoever answers in the state, that its deed does, whatever device its output goes to. If
the deed fails, because the manifest cannot be read or the operation fails, the command fails in the same way
and nothing is written. Otherwise the deed comes to a report. Its text is the line on what has been created or
deleted, the YAML document of the object that the operation came to, or both; a device with room for `n` bytes
takes the first `n` of it, and the command succeeds exactly if these are all. -/
theorem failing_output_changes_no_deed (respond : Plan.Responder Call Call.Reply σ) (state : σ)
    (config : Config) (files : Files) (command : Command) (now : Nat) :
    let deed := (command.deed config files now).run respond state
    ∀ (δ : Type) (device : Device δ) (fresh : δ),
      let run := (command.execute device config files ⟨[], fresh⟩ now).run respond state
      run.calls = deed.calls ∧ run.final = deed.final ∧
        ∀ n, device.HasRoom n fresh → Option.Rel (Delivered n fresh) deed.result run.result := by
  intro deed δ device fresh run
  -- The calls are the same on every device; only what is left of the text needs the room.
  have alike : Plan.Alike (Told device ⟨[], fresh⟩) _ _ := alike_execute config files command ⟨[], fresh⟩ now
  obtain ⟨calls, final, -⟩ := alike.run respond state
  refine ⟨calls, final, fun n room => ?_⟩
  exact ((alike.mono fun _ _ told => told.delivered room).run respond state).2.2

/-- A disk is read and shown as a document of six lines, or the beginning of it, and it is deleted whether
there is room for one word of the line that tells it or for all of it. -/
theorem failing_output_changes_no_deed_of_disk :
    let disk : Resource .dataVolume := ⟨{ name := some "alpine", space := some "images" }, {}, none⟩
    let id : ResourceId := ⟨"images", "alpine"⟩
    let document := "apiVersion: cdi.kubevirt.io/v1beta1\nkind: DataVolume\n" ++
      "metadata:\n  name: alpine\n  namespace: images\nspec: \x7b\x7d\n"
    let run (command : Command) (room : Nat) :=
      (command.execute .limited .standard (fun _ => none) ⟨[], some room⟩ 0).run Cluster.respond
        (Cluster.empty.add disk)
    (∀ room, Device.limited.HasRoom room (some room)) ∧
      (run (.read .dataVolume id) 20).calls = [(0, .get .dataVolume id)] ∧
      (∃ fault next, (run (.read .dataVolume id) 20).result =
        some ((.error (.file fault), ⟨Text.bytes "apiVersion: cdi.kube", next⟩), 0)) ∧
      (∃ next, (run (.read .dataVolume id) 200).result =
        some ((.ok (), ⟨Text.bytes document, next⟩), 0)) ∧
      (run (.delete .dataVolume id) 7).calls = [(0, .delete .dataVolume id), (0, .get .dataVolume id)] ∧
      (run (.delete .dataVolume id) 7).final.stored .dataVolume id = none ∧
      (run (.delete .dataVolume id) 7).final = (run (.delete .dataVolume id) 40).final ∧
      ∃ fault next, (run (.delete .dataVolume id) 7).result =
        some ((.error (.file fault), ⟨Text.bytes "deleted", next⟩), 0) := by
  intro disk id document run
  have changes_no_deed (command : Command) (room : Nat) :=
    failing_output_changes_no_deed Cluster.respond (Cluster.empty.add disk) .standard (fun _ => none) command 0
      (Option Nat) Device.limited (some room)
  have shown : Report.text (.shown disk) = document := by decide +kernel
  have read (room : Nat) : Option.Rel (Delivered room (some room)) (some (.ok (.shown disk), 0))
      (run (.read .dataVolume id) room).result :=
    (changes_no_deed (.read .dataVolume id) room).2.2 room (Device.hasRoom_limited room)
  have deleted (room : Nat) : Option.Rel (Delivered room (some room)) (some (.ok (.deleted .dataVolume id), 0))
      (run (.delete .dataVolume id) room).result :=
    (changes_no_deed (.delete .dataVolume id) room).2.2 room (Device.hasRoom_limited room)
  refine ⟨Device.hasRoom_limited, (changes_no_deed (.read .dataVolume id) 20).1, ?_, ?_,
    (changes_no_deed (.delete .dataVolume id) 7).1, ?_, ?_, ?_⟩
  · have cut := exists_of_delivered_cut (read 20)
    rw [shown] at cut
    exact cut (by decide +kernel)
  · have whole := exists_of_delivered_whole (read 200)
    rw [shown] at whole
    exact whole (by decide +kernel)
  · exact congrArg (fun cluster : Cluster => cluster.stored .dataVolume id)
      (changes_no_deed (.delete .dataVolume id) 7).2.1
  · exact (changes_no_deed (.delete .dataVolume id) 7).2.1.trans
      (changes_no_deed (.delete .dataVolume id) 40).2.1.symm
  · exact exists_of_delivered_cut (deleted 7) (by decide +kernel)

end Command

end VirtLifecycle
