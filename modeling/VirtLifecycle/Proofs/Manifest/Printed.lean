/-
Module: VirtLifecycle.Proofs.Manifest.Printed
Purpose: What is printed of an object is a manifest of the object. Objects are written with each key once, since
  the parts of a record have different names and free-form data are kept in canonical form; so the text that is
  printed for one can be handed in again, and describes the same object.
Specification: [SPEC 6 External interfaces], the binary: `create`, `update`, `start` and `get` print the object
  as YAML, `create` and `update` read YAML.
Main exports: Yaml.keysOnce_of_isCanonical, Codec.keysOnce_write, Manifest.ofText_print
-/
import VirtLifecycle.Proofs.Manifest
import VirtLifecycle.Proofs.Yaml.Parsing

namespace VirtLifecycle

/-! ### Keys -/

/-- Keys that ascend are different ones. -/
theorem Keyed.Ascending.nodup {α : Type} {map : Keyed α} (ascending : Keyed.Ascending map) :
    (map.map Prod.fst).Nodup :=
  List.pairwise_map.mpr (ascending.imp String.ne_of_lt)

namespace Yaml

open Json (IsCanonical AreCanonical MembersCanonical)

theorem itemsKeysOnce_iff {items : List Json} : ItemsKeysOnce items ↔ ∀ item ∈ items, KeysOnce item := by
  induction items with
  | nil => simp [ItemsKeysOnce]
  | cons item rest ih => simp [ItemsKeysOnce, ih]

theorem membersKeysOnce_iff {members : List (String × Json)} :
    MembersKeysOnce members ↔ ∀ entry ∈ members, KeysOnce entry.2 := by
  induction members with
  | nil => simp [MembersKeysOnce]
  | cons entry rest ih => simp [MembersKeysOnce, ih]

mutual

/-- Where keys ascend none stands twice. -/
theorem keysOnce_of_isCanonical : {value : Json} → value.IsCanonical → KeysOnce value
  | .null, _ | .bool _, _ | .number _, _ | .text _, _ => trivial
  | .array _, canonical => itemsKeysOnce_of_areCanonical canonical
  | .object _, canonical => ⟨canonical.1.nodup, membersKeysOnce_of_membersCanonical canonical.2⟩

theorem itemsKeysOnce_of_areCanonical : {items : List Json} → AreCanonical items → ItemsKeysOnce items
  | [], _ => trivial
  | _ :: _, canonical => ⟨keysOnce_of_isCanonical canonical.1, itemsKeysOnce_of_areCanonical canonical.2⟩

theorem membersKeysOnce_of_membersCanonical : {members : List (String × Json)} →
    MembersCanonical members → MembersKeysOnce members
  | [], _ => trivial
  | _ :: _, canonical =>
    ⟨keysOnce_of_isCanonical canonical.1, membersKeysOnce_of_membersCanonical canonical.2⟩

end

end Yaml

namespace Codec

open Yaml (KeysOnce)

mutual

/-- No key is written twice in an object, at any depth. -/
theorem keysOnce_write : {β : Type} → (codec : Codec β) → (b : β) → KeysOnce (codec.write b)
  | _, .text, _ | _, .bool, _ | _, .int32, _ | _, .int64, _ | _, .timestamp, _ | _, .wholeTimestamp, _ => trivial
  | _, .freeform, data => Yaml.keysOnce_of_isCanonical data.canonical
  | _, .texts, map => Yaml.keysOnce_of_isCanonical (Json.isCanonical_ofTexts map)
  | _, .listOf items, _ =>
    Yaml.itemsKeysOnce_iff.mpr (List.forall_mem_map.mpr fun b _ => items.keysOnce_write b)
  | _, .record _ parts shape, r =>
    ⟨parts.nodup_write (shape.take r), Yaml.membersKeysOnce_iff.mpr (parts.keysOnce_write (shape.take r))⟩

theorem Part.keysOnce_write : {β : Type} → (part : Part β) → (b : β) → {value : Json} →
    part.write b = some value → KeysOnce value
  | _, .required codec, b, _, given => by
    cases given
    exact codec.keysOnce_write b
  | _, .optional codec, b, _, given => by
    obtain ⟨b, -, rfl⟩ := Option.map_eq_some_iff.mp given
    exact codec.keysOnce_write b
  | _, .flag, _, _, given | _, .word, _, _, given | _, .constant _, _, _, given => by
    cases given
    trivial
  | _, .listed codec, _, _, given => by
    rw [Part.write] at given
    split at given
    · cases given
    · cases given
      exact Yaml.itemsKeysOnce_iff.mpr (List.forall_mem_map.mpr fun b _ => codec.keysOnce_write b)

/-- The parts of a record stand under different names, so each is a member of its own. -/
theorem Parts.keysOnce_write : {names : List String} → {P : Type} → (parts : Parts names P) → (p : P) →
    ∀ member ∈ parts.write p, KeysOnce member.2
  | _, _, .nil, _ => List.forall_mem_nil _
  | _, _, .cons name part rest _, p => by
    rw [Parts.write]
    refine List.forall_mem_append.mpr ⟨?_, rest.keysOnce_write p.2⟩
    cases written : part.write p.1 with
    | none => exact List.forall_mem_nil _
    | some value => exact List.forall_mem_singleton.mpr (part.keysOnce_write p.1 written)

end

end Codec

namespace Manifest

variable {k : Kind}

/-- **What is printed of an object is a manifest of the object.** If no optional part of the object is there but
null, which is so of every object that has been read, if its numbers are legible and its data are nested no deeper
than documents may be, then the text that is printed is read as the object, with the timestamps of its metadata in
whole seconds. -/
theorem ofText_print {object : Resource k} (full : object.full = true) (legible : Yaml.Legible object.encode)
    (shallow : object.encode.depth ≤ Yaml.depthLimit) :
    ofText (Yaml.print object.encode) = .ok ⟨k, object.wholeSeconds⟩ := by
  have text : Yaml.read? (Yaml.print object.encode) = some (Yaml.Node.ofJson object.encode) :=
    Yaml.read?_print legible ((Resource.codec k).keysOnce_write object) shallow
  rw [ofText, text]
  exact ofNode_encode (Resource.decode?_encode full)

/-- A set with a name that looks like a number, half a second in its metadata, an empty text and a tenth. -/
example :
    let set : Resource .replicaSet := {
      metadata := { name := some "007", creationTimestamp := some ⟨1704067200, 500000000, by decide⟩ }
      spec := {
        replicas := some 3
        template := some ⟨.object [("note", .text ""), ("part", .number (.double ⟨0x3FB999999999999A⟩))],
          by decide +kernel, by decide +kernel⟩ }
      status := none }
    ofText (Yaml.print set.encode) = .ok ⟨.replicaSet, set.wholeSeconds⟩ :=
  ofText_print rfl (by decide +kernel) (by decide)

end Manifest

end VirtLifecycle
