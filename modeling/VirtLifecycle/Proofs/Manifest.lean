/-
Module: VirtLifecycle.Proofs.Manifest
Purpose: A document that is accepted as an object in JSON is accepted as a manifest, and is the same
  object there. So is every object in the form in which it is written.
Main exports: Resource.byName_encode, Manifest.ofNode_ofJson, Manifest.ofNode_encode,
  Manifest.reads_what_json_reads
-/
import VirtLifecycle.Manifest
import VirtLifecycle.Proofs.Codec.Yaml
import VirtLifecycle.Proofs.Resource.Basic

namespace VirtLifecycle

open Yaml (Node)

variable {k : Kind}

/-! ### Objects in YAML -/

/-- No condition that the report lists is written as the list of its fields. -/
def Condition.ListedByName (status : Json) : Prop :=
  ∀ conditions ∈ status.under "conditions", ∀ condition ∈ conditions.itemsOrNone,
    condition.isArray = false

instance (status : Json) : Decidable (Condition.ListedByName status) :=
  inferInstanceAs (Decidable (∀ conditions ∈ _, ∀ condition ∈ _, _))

/-- No record of the object is written as the list of its fields: not the object, its description, its
report or a condition in it. Metadata never are. -/
structure Resource.ByName (document : Json) : Prop where
  object : document.isArray = false
  spec : ∀ spec ∈ document.under "spec", spec.isArray = false
  status : ∀ status ∈ document.under "status", status.isArray = false
  conditions : ∀ status ∈ document.under "status", Condition.ListedByName status

/-- Conditions have no further records. -/
theorem Condition.byName_codec (condition : Json) : codec.ByName condition ↔ condition.isArray = false := by
  simp [codec, Codec.ByName, Codec.Parts.ByName, Codec.Part.ByName]

/-- The records in metadata are never read from lists. -/
theorem Metadata.byName_codec (metadata : Json) : codec.ByName metadata := by
  simp [codec, ManagedFields.codec, OwnerReference.codec, Codec.ByName, Codec.Parts.ByName,
    Codec.Part.ByName]

namespace Kind

/-- Descriptions have no further records. -/
theorem byName_specCodec (k : Kind) (spec : Json) : k.specCodec.ByName spec ↔ spec.isArray = false := by
  cases k <;> simp [specCodec, MachineSpec.codec, InstanceSpec.codec, ReplicaSetSpec.codec,
    DataVolumeSpec.codec, Codec.ByName, Codec.Parts.ByName, Codec.Part.ByName]

/-- The records in a report are its conditions. -/
theorem byName_statusCodec (k : Kind) (status : Json) :
    k.statusCodec.ByName status ↔ status.isArray = false ∧ Condition.ListedByName status := by
  cases k <;> simp [statusCodec, MachineStatus.codec, InstanceStatus.codec, ReplicaSetStatus.codec,
    DataVolumeStatus.codec, Codec.ByName, Codec.Parts.ByName, Codec.Part.ByName, Condition.byName_codec,
    Condition.ListedByName]

end Kind

namespace Resource

/-- The condition that reading an object from YAML asks for, spelled out. -/
theorem byName_iff (k : Kind) (document : Json) : (codec k).ByName document ↔ ByName document := by
  simp only [codec, Codec.ByName, Codec.Parts.ByName, Codec.Part.ByName, implies_true, true_and, and_true,
    Metadata.byName_codec, k.byName_specCodec, k.byName_statusCodec]
  constructor
  · rintro ⟨object, spec, status⟩
    exact ⟨object, spec, fun given mem => (status given mem).1, fun given mem => (status given mem).2⟩
  · rintro ⟨object, spec, status, conditions⟩
    exact ⟨object, spec, fun given mem => ⟨status given mem, conditions given mem⟩⟩

/-- What is read from JSON as an object is read from YAML. -/
theorem carried {document : Json} (byName : ByName document) : Carried (decode? k) document :=
  (codec k).carried ((byName_iff k document).mpr byName)

/-- No object is written as a list, nor a part of it. -/
theorem byName_encode (object : Resource k) : ByName object.encode :=
  (byName_iff k _).mp ((codec k).byName_write object)

end Resource

namespace Manifest

/-! ### Which documents are manifests -/

/-- A document is read as an object of the kind that it names, if it gives no text for a version other than
that of the kind. -/
theorem ofNode_ofJson {document : Json} {object : Resource k}
    (kind : document.find? "kind" = some (.text k.name))
    (version : ∀ version, document.find? "apiVersion" = some (.text version) → version = k.apiVersion)
    (read : Resource.decode? k (Node.ofJson document) = some object) :
    ofNode (Node.ofJson document) = .ok ⟨k, object⟩ := by
  have named : (Node.find? "kind" (.ofJson document)).bind Node.text? = some k.name := by
    rw [Node.find?_ofJson, kind]
    rfl
  have reads : ofKind k (Node.ofJson document) = .ok ⟨k, object⟩ := by
    rw [ofKind, Node.find?_ofJson, read]
    cases given : document.find? "apiVersion" with
    | none => rfl
    | some found =>
      cases found with
      | text name =>
        cases version name given
        exact if_pos rfl
      | null | bool | number | array | object => rfl
  rw [ofNode, named]
  simp only [Kind.ofName?_name, reads]

/-- Any object, in the form in which it is written, is the manifest of what JSON reads there. -/
theorem ofNode_encode {written object : Resource k}
    (read : Resource.decode? k written.encode = some object) :
    ofNode (Node.ofJson written.encode) = .ok ⟨k, object⟩ := by
  refine ofNode_ofJson rfl (fun version given => ?_) (Resource.carried written.byName_encode read)
  cases given
  rfl

/-- **A manifest is read as JSON is.** A document that is accepted as an object of a kind in JSON, names
that kind, gives no text for another version and has no record written as a list is accepted as a
manifest, and is the same object there. In particular every object that has been read in JSON is accepted
in the form in which it is written, as the object with the timestamps of its metadata in whole seconds,
which is written the same way. -/
theorem reads_what_json_reads (k : Kind) (document : Json) (object : Resource k)
    (read : Resource.decode? k document = some object) :
    (Resource.ByName document → document.find? "kind" = some (.text k.name) →
      (∀ version, document.find? "apiVersion" = some (.text version) → version = k.apiVersion) →
      ofNode (Node.ofJson document) = .ok ⟨k, object⟩) ∧
    ofNode (Node.ofJson object.encode) = .ok ⟨k, object.wholeSeconds⟩ ∧
    object.wholeSeconds.encode = object.encode := by
  refine ⟨fun byName kind version => ?_, ?_, object.encode_wholeSeconds⟩
  · exact ofNode_ofJson kind version (Resource.carried byName read)
  · exact ofNode_encode (Resource.decode?_encode (Resource.full_of_decode? read))

/-- A disk with half a second in its metadata, free-form data whose keys do not ascend and a condition. -/
theorem reads_what_json_reads_of_disk :
    let document : Json := .object [
      ("kind", .text "DataVolume"),
      ("metadata", .object [
        ("name", .text "d"), ("creationTimestamp", .text "2024-01-01T00:00:00.5Z")]),
      ("spec", .object [
        ("source", .object [("http", .object [("url", .text "u")]), ("blank", .null)])]),
      ("status", .object [("conditions", .array [
        .object [("type", .text "Ready"), ("status", .text "True")]])])]
    let disk : Resource .dataVolume := {
      metadata := { name := some "d", creationTimestamp := some ⟨1704067200, 500000000, by decide⟩ }
      spec := {
        source := some ⟨.object [("blank", .null), ("http", .object [("url", .text "u")])],
          by decide +kernel, rfl⟩ }
      status := some { conditions := [{ type := "Ready", status := "True" }] } }
    Resource.decode? .dataVolume document = some disk ∧ Resource.ByName document ∧
    ofNode (Node.ofJson document) = .ok ⟨.dataVolume, disk⟩ ∧
    ofNode (Node.ofJson disk.encode) = .ok ⟨.dataVolume, disk.wholeSeconds⟩ := by
  intro document disk
  have read : Resource.decode? .dataVolume document = some disk := rfl
  have byName : Resource.ByName document := ⟨rfl, by decide, by decide, by decide⟩
  obtain ⟨given, written, -⟩ := reads_what_json_reads .dataVolume document disk read
  exact ⟨read, byName, given byName rfl (fun _ given => nomatch given), written⟩

/-- A description may be a list in JSON, but not in a manifest. -/
example :
    let document : Json := .object [("metadata", .object []), ("spec", .array [.bool true])]
    (Resource.decode? .virtualMachine document).isSome = true ∧
    (Resource.decode? .virtualMachine (Node.ofJson document)).isSome = false := ⟨rfl, rfl⟩

end Manifest

end VirtLifecycle
