/-
Module: VirtLifecycle.Proofs.Resource.Merging
Purpose: Objects as records of slots. An object is rewritten slot by slot: its version and kind are written
  in any case, and its metadata, its description and its report are records of plain parts. So objects keep
  up with patches, and patches leave of them what they do not touch.
Main exports: Resource.record, Resource.rewrite_eq, Resource.encode_eq, Resource.notList_encode,
  Resource.mergeable_record, Resource.frames_record
-/
import VirtLifecycle.Proofs.Codec.Merging
import VirtLifecycle.Proofs.Resource.Basic

namespace VirtLifecycle

open Codec (Part Parts)
open Record (NotList)

namespace Resource

variable {k : Kind} {value : Json}

/-- How an object is rewritten. -/
def record (k : Kind) : Record := (codec k).toRecord

/-- To read an object and write it again is to rewrite it slot by slot. -/
theorem rewrite_eq (k : Kind) (canonical : value.IsCanonical) :
    (decode? k value).map encode = (record k).rewrite value :=
  Codec.rewrite_record _ _ _ canonical

/-- What is written for an object, part by part. -/
theorem encode_eq (object : Resource k) : object.encode = .object (
    ("apiVersion", .text k.apiVersion) :: ("kind", .text k.name) ::
      ("metadata", Metadata.codec.write object.metadata) :: ("spec", k.specCodec.write object.spec) ::
      Json.member "status" (object.status.map k.statusCodec.write)) := by
  rw [encode, codec, Codec.write]
  simp only [Parts.write, Part.write, List.append_nil]
  rfl

/-- No part of an object is written as a list. -/
theorem notList_encode (object : Resource k) (name : String) :
    NotList (object.encode.canonical.find? name) := by
  have once : (object.encode.membersOrNone.map Prod.fst).Nodup := Parts.nodup_write _ _
  have found : object.encode.canonical.find? name =
      (Keyed.find? name object.encode.membersOrNone).map Json.canonical := Json.find?_canonical once name
  have parts : ∀ entry ∈ object.encode.membersOrNone, ∀ items, entry.2 ≠ .array items := by
    rw [encode_eq]
    simp only [Json.membersOrNone, List.forall_mem_cons]
    refine ⟨nofun, nofun, nofun, fun items same => ?_, fun entry mem items same => ?_⟩
    · cases k <;> cases same
    · cases status : object.status with
      | none =>
        rw [status] at mem
        cases mem
      | some reported =>
        rw [status] at mem
        cases List.mem_singleton.mp mem
        cases k <;> cases same
  intro items same
  rw [found] at same
  obtain ⟨value, there, same⟩ := Option.map_eq_some_iff.mp same
  cases value with
  | array given => exact parts _ (Keyed.mem_of_find? there) given rfl
  | null | bool | number | text | object => cases same

theorem nodup_record (k : Kind) : ((record k).slots.map Prod.fst).Nodup := by
  rw [record, codec, Codec.toRecord, Parts.record, Parts.map_fst_slots]
  decide

/-- An object keeps up with merging, as long as its parts are not written as lists. -/
theorem mergeable_record (k : Kind) : (record k).Mergeable NotList where
  nodup := nodup_record k
  slots := by
    have metadata : (Part.required Metadata.codec).slot.Mergeable NotList := Part.mergeable_required _ _ _ rfl
    have spec : (Part.required k.specCodec).slot.Mergeable NotList := by
      cases k <;> exact Part.mergeable_required _ _ _ rfl
    have status : (Part.optional k.statusCodec).slot.Mergeable NotList := by
      cases k <;> exact Part.mergeable_optional _ _ _ rfl rfl
    simp only [record, codec, Codec.toRecord, Parts.record, Parts.slots, List.forall_mem_cons]
    exact ⟨Slot.mergeable_constant _, Slot.mergeable_constant _, metadata, spec, status,
      List.forall_mem_nil _⟩

/-- Patches of an object leave what they do not touch. -/
theorem frames_record (k : Kind) : (record k).rewrite.Frames := by
  have metadata : (Part.required Metadata.codec).slot.Frames := by
    rw [Part.slot_required]
    exact Slot.frames_required (Codec.frames_record _ _ _ rfl)
  have spec : (Part.required k.specCodec).slot.Frames := by
    rw [Part.slot_required]
    cases k <;> exact Slot.frames_required (Codec.frames_record _ _ _ rfl)
  have status : (Part.optional k.statusCodec).slot.Frames := by
    rw [Part.slot_optional]
    cases k <;> exact Slot.frames_optional (Codec.frames_record _ _ _ rfl)
  apply Record.frames (nodup_record k)
  simp only [record, codec, Codec.toRecord, Parts.record, Parts.slots, List.forall_mem_cons]
  exact ⟨Slot.frames_constant _, Slot.frames_constant _, metadata, spec, status, List.forall_mem_nil _⟩

end Resource

end VirtLifecycle
