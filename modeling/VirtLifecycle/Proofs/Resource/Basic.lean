/-
Module: VirtLifecycle.Proofs.Resource.Basic
Purpose: The normal form of objects. An object that has been read from any document is written as one
  that names its version and kind and reads as the object again, its metadata in whole seconds; from
  then on reading and writing change nothing. All of it follows from the laws of descriptions: of what an
  object is made of only its metadata have timestamps that are written in whole seconds.
Main exports: ManagedFields.wholeSeconds, Metadata.wholeSeconds, Resource.wholeSeconds,
  Resource.whole_codec, Resource.full, Resource.decode?_encode, Resource.normal_form
-/
import VirtLifecycle.Proofs.Codec.ReadsBack
import VirtLifecycle.Resource.Basic

namespace VirtLifecycle

open Codec (Part Parts)

/-- The same with the time in whole seconds. -/
def ManagedFields.wholeSeconds (m : ManagedFields) : ManagedFields :=
  { m with time := m.time.map Timestamp.wholeSeconds }

/-- The same metadata with its timestamps in whole seconds. -/
def Metadata.wholeSeconds (m : Metadata) : Metadata :=
  { m with
    creationTimestamp := m.creationTimestamp.map Timestamp.wholeSeconds
    deletionTimestamp := m.deletionTimestamp.map Timestamp.wholeSeconds
    managedFields := m.managedFields.map (·.map ManagedFields.wholeSeconds) }

/-- What is written of managed fields has their time in whole seconds, and all else as it is. -/
theorem ManagedFields.whole_codec (m : ManagedFields) : codec.whole m = m.wholeSeconds := by
  simp only [codec, Codec.whole, Parts.whole, wholeSeconds, Part.whole_eq_self (.optional .text) rfl,
    Part.whole_eq_self (.optional .freeform) rfl]
  rfl

/-- Of metadata three members are written in whole seconds: two times, and those of managed fields. -/
theorem Metadata.whole_codec (m : Metadata) : codec.whole m = m.wholeSeconds := by
  have managed : (Part.optional (.listOf ManagedFields.codec)).whole m.managedFields =
      m.managedFields.map (·.map ManagedFields.wholeSeconds) := by
    cases m.managedFields with
    | none => rfl
    | some given => exact congrArg some (List.map_congr_left fun m _ => m.whole_codec)
  simp only [codec, Codec.whole, Parts.whole, wholeSeconds, managed,
    Part.whole_eq_self (.optional .text) rfl, Part.whole_eq_self (.optional .texts) rfl,
    Part.whole_eq_self (.optional .int64) rfl, Part.whole_eq_self (.optional (.listOf .text)) rfl,
    Part.whole_eq_self (.optional (.listOf OwnerReference.codec)) rfl]
  rfl

/-- Descriptions are written with all that they say. -/
theorem Kind.rounds_specCodec (k : Kind) : k.specCodec.rounds = false := by
  cases k <;> rfl

/-- Reports are, too: the timestamps of conditions have all decimals. -/
theorem Kind.rounds_statusCodec (k : Kind) : k.statusCodec.rounds = false := by
  cases k <;> rfl

namespace Resource

variable {k : Kind}

/-- The same object with the timestamps of its metadata in whole seconds. -/
def wholeSeconds (r : Resource k) : Resource k :=
  { r with metadata := r.metadata.wholeSeconds }

theorem whole_codec (r : Resource k) : (codec k).whole r = r.wholeSeconds := by
  have metadata : (Part.required Metadata.codec).whole r.metadata = r.metadata.wholeSeconds :=
    r.metadata.whole_codec
  have spec := Part.whole_eq_self (.required k.specCodec) k.rounds_specCodec r.spec
  have status := Part.whole_eq_self (.optional k.statusCodec) k.rounds_statusCodec r.status
  simp only [codec, Codec.whole, Parts.whole, metadata, spec, status]
  rfl

/-- Metadata is written in whole seconds only. -/
theorem encode_wholeSeconds (r : Resource k) : r.wholeSeconds.encode = r.encode := by
  rw [← whole_codec]
  exact (codec k).write_whole r

/-- How far the creation has come is not told by the metadata. -/
theorem creationState_wholeSeconds (r : Resource k) :
    r.wholeSeconds.creationState = r.creationState := by
  cases k <;> rfl

/-- No free-form part of the object is there but null. A null that is written for one is read as if the part
were missing. -/
def full (r : Resource k) : Bool :=
  (codec k).full r

/-- Objects that have been read are of this sort. -/
theorem full_of_decode? {value : Json} {r : Resource k} (read : decode? k value = some r) : r.full = true :=
  (codec k).full_of_read read

/-- An object is read again once it is written. -/
theorem decode?_encode {r : Resource k} (full : r.full = true) : decode? k r.encode = some r.wholeSeconds := by
  have again : decode? k r.encode = some ((codec k).reread r) := (codec k).read_write .id r
  rw [again, (codec k).reread_eq_whole full, whole_codec]

/-- What is written carries the names of its kind, each once. -/
theorem names_encode (r : Resource k) : ∃ members, r.encode = .object members ∧
    (Fields.mk members).all "apiVersion" = [.text k.apiVersion] ∧
    (Fields.mk members).all "kind" = [.text k.name] := by
  refine ⟨_, rfl, Parts.all_write_cons .., ?_⟩
  rw [Parts.all_write_rest _ _ _ _ _ (by decide)]
  exact Parts.all_write_cons ..

/-- The normal form: an object that has been read from any document is written as one that reads as
the object again, with the timestamps of its metadata in whole seconds. That object is written the
same way, its creation has come as far, and what is written carries the version and the kind. -/
theorem normal_form (k : Kind) (document : Json) (r : Resource k)
    (read : decode? k document = some r) :
    decode? k r.encode = some r.wholeSeconds ∧
    r.wholeSeconds.encode = r.encode ∧
    r.wholeSeconds.creationState = r.creationState ∧
    ∃ members, r.encode = .object members ∧
      (Fields.mk members).all "apiVersion" = [.text k.apiVersion] ∧
      (Fields.mk members).all "kind" = [.text k.name] :=
  ⟨decode?_encode (full_of_decode? read), r.encode_wholeSeconds, r.creationState_wholeSeconds, r.names_encode⟩

/-- A machine given as the list of its parts, with half a second in its metadata. -/
theorem normal_form_of_list :
    let document : Json := .array [
      .object [("name", .text "m"), ("creationTimestamp", .text "2024-01-01T00:00:00.5Z")],
      .object [("running", .bool true), ("unknown", .null)], .null]
    let machine : Resource .virtualMachine := {
      metadata := { name := some "m", creationTimestamp := some ⟨1704067200, 500000000, by decide⟩ }
      spec := { running := some true }
      status := none }
    decode? .virtualMachine document = some machine ∧
    decode? .virtualMachine machine.encode = some machine.wholeSeconds ∧
    machine.wholeSeconds.metadata.creationTimestamp = some ⟨1704067200, 0, by decide⟩ := by
  intro document machine
  have read : decode? .virtualMachine document = some machine := rfl
  exact ⟨read, (normal_form .virtualMachine document machine read).1, rfl⟩

end Resource

end VirtLifecycle
