/-
Module: VirtLifecycle.Proofs.Cluster.Identity
Purpose: Under which id an object is stored. Objects are put under the id that their metadata give, and
  an update leaves them there. So each object is found under its own id as long as no update gives it
  another name or namespace. One that does is accepted, and the object stays under the old id.
Main exports: Json.givenId, Resource.ownId_patched, Json.KeepsId, Json.GivesOtherId, Law.ownId,
  Cluster.stored_by_own_id, Cluster.stored_of_givesOtherId
-/
import VirtLifecycle.Proofs.Cluster.Invariants
import VirtLifecycle.Proofs.Resource.Merging

namespace VirtLifecycle

open Document
open Json (mergeAt mergePatch)

/-! ### The id that a document gives -/

namespace Json

/-- What the metadata of a document have under a key. -/
def metadata? (document : Json) (key : String) : Option Json :=
  (document.find? "metadata").bind (·.find? key)

/-- The text that the metadata of a document have under a key. -/
def metadataText? (document : Json) (key : String) : Option String :=
  (document.metadata? key).bind text?

/-- The id that the metadata of a document give. -/
def givenId (document : Json) : ResourceId where
  space := (document.metadataText? "namespace").getD ""
  name := (document.metadataText? "name" <|> document.metadataText? "generateName").getD ""

theorem metadataText?_of_find? {document metadata : Json} (found : document.find? "metadata" = some metadata)
    (key : String) : document.metadataText? key = (metadata.find? key).bind text? := by
  rw [metadataText?, metadata?, found, Option.bind_some]

end Json

/-- An optional text is written as it is given, unless it is null. -/
theorem Codec.text?_of_slot {given written : Option Json}
    (writes : (Codec.Part.optional .text).slot given = some written) :
    (written.map Json.canonical).bind Json.text? = given.bind Json.text? := by
  rw [Codec.Part.slot_optional] at writes
  cases given with
  | none =>
    cases writes
    rfl
  | some value => cases value <;> cases writes <;> rfl

/-- The names in metadata are kept when these are read and written again. -/
theorem Metadata.text?_of_rewrite {value written : Json} (canonical : value.IsCanonical)
    (rewritten : codec.rewrite value = some written) : (∃ members, value = .object members) ∧
      ∀ key ∈ ["name", "generateName", "namespace"],
        (written.canonical.find? key).bind Json.text? = (value.find? key).bind Json.text? := by
  cases value with
  | null | bool | number | text | array => cases rewritten
  | object members =>
    refine ⟨⟨members, rfl⟩, fun key mem => ?_⟩
    have optional : (key, (Codec.Part.optional .text).slot) ∈ codec.toRecord.slots := by
      simp only [List.mem_cons, List.not_mem_nil, or_false] at mem
      rcases mem with rfl | rfl | rfl <;> simp [codec, Codec.toRecord, Codec.Parts.record, Codec.Parts.slots]
    obtain ⟨given, writes, found⟩ := Codec.exists_slot_of_rewrite canonical rewritten optional
    rw [found, Codec.text?_of_slot writes]

/-- The names in metadata are written as texts. -/
theorem Metadata.text?_write (m : Metadata) :
    ((codec.write m).canonical.find? "name").bind Json.text? = m.name ∧
      ((codec.write m).canonical.find? "generateName").bind Json.text? = m.generateName ∧
      ((codec.write m).canonical.find? "namespace").bind Json.text? = m.space := by
  have text : ∀ {key : String} {given : Option String},
      (Fields.mk (codec.write m).membersOrNone).all key = (given.map Json.text).toList →
        ((codec.write m).canonical.find? key).bind Json.text? = given := by
    intro key given all
    have found : (codec.write m).canonical.find? key = (given.map Json.text).map Json.canonical :=
      Json.find?_canonical_of_all all
    rw [found]
    cases given <;> rfl
  refine ⟨text ?_, text ?_, text ?_⟩
  all_goals simp [codec, Codec.write, Codec.Parts.write, Codec.Part.write, Json.membersOrNone]

namespace Resource

variable {kind : Kind} {object : Resource kind} {document : Json}

/-- The document written for an object has the texts of its metadata. -/
theorem metadataText?_encode (object : Resource kind) :
    object.encode.canonical.metadataText? "name" = object.metadata.name ∧
      object.encode.canonical.metadataText? "generateName" = object.metadata.generateName ∧
      object.encode.canonical.metadataText? "namespace" = object.metadata.space := by
  have metadata : object.encode.canonical.find? "metadata" =
      (some (Metadata.codec.write object.metadata)).map Json.canonical := by
    rw [object.encode_eq]
    exact Json.find?_canonical_of_all (by simp)
  rw [Json.metadataText?_of_find? metadata, Json.metadataText?_of_find? metadata,
    Json.metadataText?_of_find? metadata]
  exact object.metadata.text?_write

/-- An object that has been read has the id that the document gives, if that is no list. -/
theorem ownId_of_decode? (canonical : document.IsCanonical) (notList : ∀ items, document ≠ .array items)
    (read : decode? kind document = some object) :
    (∃ members, document.find? "metadata" = some (.object members)) ∧ object.ownId = document.givenId := by
  have rewritten : (codec kind).rewrite document = some object.encode := congrArg (Option.map encode) read
  cases document with
  | array items => exact absurd rfl (notList items)
  | null | bool | number | text => cases rewritten
  | object members =>
    have required : ("metadata", (Codec.Part.required Metadata.codec).slot) ∈ (codec kind).toRecord.slots := by
      simp [codec, Codec.toRecord, Codec.Parts.record, Codec.Parts.slots]
    obtain ⟨given, writes, found⟩ := Codec.exists_slot_of_rewrite canonical rewritten required
    rw [Codec.Part.slot_required] at writes
    cases there : (Json.object members).find? "metadata" with
    | none =>
      rw [there] at writes
      cases writes
    | some value =>
      rw [there] at writes
      obtain ⟨written, rewrites, rfl⟩ := Option.map_eq_some_iff.mp writes
      obtain ⟨⟨inner, rfl⟩, same⟩ := Metadata.text?_of_rewrite (canonical.find? there) rewrites
      refine ⟨⟨inner, rfl⟩, ?_⟩
      -- what the object gives is what has been written for it, which is what the document gives
      have text : ∀ key ∈ ["name", "generateName", "namespace"],
          (Json.object members).metadataText? key = object.encode.canonical.metadataText? key := by
        intro key mem
        rw [Json.metadataText?_of_find? there, Json.metadataText?_of_find? found, same key mem]
      obtain ⟨name, stem, space⟩ := object.metadataText?_encode
      rw [Json.givenId, text "name" (by simp), text "generateName" (by simp), text "namespace" (by simp),
        name, stem, space]
      rfl

end Resource

/-! ### Patches and names -/

namespace Json

/-- A text after a change, which may be missing; only a text leaves one. -/
def textAfter (change : Option Json) (before : Option String) : Option String :=
  match change with
  | none => before
  | some given => given.text?

theorem text?_mergeAt (target : Option Json) (change : Json) :
    (mergeAt target (some change)).bind text? = change.text? := by
  cases change <;> rfl

variable {target patch : Json}

/-- A patch that leaves metadata changes each text in them on its own. -/
theorem metadataText?_mergePatch (canonical : target.IsCanonical) (canonical' : patch.IsCanonical)
    {members : List (String × Json)}
    (left : (mergePatch target patch).find? "metadata" = some (.object members)) (key : String) :
    (mergePatch target patch).metadataText? key =
      textAfter (patch.metadata? key) (target.metadataText? key) := by
  cases patch with
  | null | bool | number | text | array => cases left
  | object changes =>
    have merged := find?_mergePatch canonical canonical' "metadata"
    cases change : Keyed.find? "metadata" changes with
    | none =>
      have unsaid : (object changes).metadata? key = none := by
        rw [metadata?, find?, change, Option.bind_none]
      rw [change, mergeAt_none] at merged
      rw [unsaid, textAfter, metadataText?, metadata?, merged]
      rfl
    | some said =>
      rw [change, left] at merged
      cases said with
      | null | bool | number | text | array => cases merged
      | object inner =>
        have before := (canonical.findAt "metadata").getD
        have each := find?_mergePatch before (canonical'.find? change) key
        have there : (object changes).metadata? key = Keyed.find? key inner := by
          rw [metadata?, find?, change, Option.bind_some, find?]
        rw [mergeAt_some rfl] at merged
        rw [metadataText?_of_find? left, Option.some.inj merged, each, there]
        cases Keyed.find? key inner with
        | none =>
          rw [mergeAt_none, textAfter, metadataText?, metadata?]
          cases target.find? "metadata" <;> rfl
        | some given => exact text?_mergeAt _ given

/-- A patch that gives no other name and no other namespace than the id. -/
structure KeepsId (patch : Json) (id : ResourceId) : Prop where
  /-- a list would stand for a whole other object -/
  notList : ∀ items, patch ≠ .array items
  name : patch.metadata? "name" = none ∧ patch.metadata? "generateName" = none ∨
    patch.metadata? "name" = some (.text id.name)
  space : patch.metadata? "namespace" = none ∨ patch.metadata? "namespace" = some (.text id.space)

/-- A patch that gives another name or another namespace than the id. -/
inductive GivesOtherId (patch : Json) (id : ResourceId) : Prop where
  | name {name : String} (given : patch.metadata? "name" = some (.text name)) (other : name ≠ id.name)
  | space {space : String} (given : patch.metadata? "namespace" = some (.text space))
      (other : space ≠ id.space)

end Json

namespace Resource

variable {kind : Kind} {object result : Resource kind} {patch : Freeform}

/-- The id of an object after a patch. -/
theorem ownId_patched (notList : ∀ items, patch.value ≠ .array items)
    (applies : Cluster.patched? object patch = some result) : result.ownId =
      { space := (Json.textAfter (patch.value.metadata? "namespace") object.metadata.space).getD ""
        name := (Json.textAfter (patch.value.metadata? "name") object.metadata.name <|>
          Json.textAfter (patch.value.metadata? "generateName") object.metadata.generateName).getD "" } := by
  have document := Json.isCanonical_canonical object.encode
  have noList : ∀ items, mergePatch object.encode.canonical patch.value ≠ .array items := by
    intro items same
    cases shown : patch.value with
    | array given => exact notList given shown
    | null | bool | number | text | object =>
      rw [shown] at same
      cases same
  have canonical := patch.canonical
  have merged := Json.isCanonical_mergePatch patch.value document canonical
  obtain ⟨⟨members, left⟩, own⟩ := ownId_of_decode? merged noList applies
  obtain ⟨name, stem, space⟩ := object.metadataText?_encode
  rw [own, Json.givenId, Json.metadataText?_mergePatch document canonical left,
    Json.metadataText?_mergePatch document canonical left,
    Json.metadataText?_mergePatch document canonical left, name, stem, space]

/-- A patch that keeps the id leaves an object of that id. -/
theorem ownId_patched_of_keepsId (keeps : patch.value.KeepsId object.ownId)
    (applies : Cluster.patched? object patch = some result) : result.ownId = object.ownId := by
  rw [ownId_patched keeps.notList applies]
  have space : (Json.textAfter (patch.value.metadata? "namespace") object.metadata.space).getD "" =
      object.ownId.space := by
    rcases keeps.space with unsaid | same
    · rw [unsaid]
      rfl
    · rw [same]
      rfl
  have name : (Json.textAfter (patch.value.metadata? "name") object.metadata.name <|>
      Json.textAfter (patch.value.metadata? "generateName") object.metadata.generateName).getD "" =
        object.ownId.name := by
    rcases keeps.name with ⟨unsaid, unsaid'⟩ | same
    · rw [unsaid, unsaid']
      rfl
    · rw [same]
      rfl
  rw [space, name]

/-- A patch that gives another id leaves an object that has not the id. -/
theorem ownId_patched_of_givesOtherId {id : ResourceId}
    (gives : patch.value.GivesOtherId id) (applies : Cluster.patched? object patch = some result) :
    result.ownId ≠ id := by
  have notList : ∀ items, patch.value ≠ .array items := by
    intro items same
    rw [same] at gives
    cases gives with
    | name given | space given => cases given
  rintro rfl
  have own := ownId_patched notList applies
  cases gives with
  | name given other =>
    rw [given] at own
    exact other (congrArg ResourceId.name own).symm
  | space given other =>
    rw [given] at own
    exact other (congrArg ResourceId.space own).symm

end Resource

/-! ### Clusters -/

/-- An object has the id under which it is stored. -/
def Law.ownId : Law := fun _ id object => object.ownId = id

/-- Only an update can go against an object's own id. -/
theorem Law.respects_ownId {action : Action}
    (keeps : ∀ kind id patch, action = .call (.update kind id patch) → patch.value.KeepsId id) :
    ownId.Respects action := by
  cases action with
  | script | holds | arm => trivial
  | add => rfl
  | call call =>
    cases call with
    | create => rfl
    | get | delete => trivial
    | update kind id patch =>
      rintro object result rfl applies
      exact Resource.ownId_patched_of_keepsId (keeps kind _ patch rfl) applies

namespace Cluster

variable {c : Cluster} {kind : Kind} {id : ResourceId} {patch : Freeform}

/-- An update that keeps the id answers an object of that id. -/
theorem ownId_of_accepted (own : Law.ownId.Holds c) (keeps : patch.value.KeepsId id) {result : Resource kind}
    (accepted : (c.answer (.update kind id patch)).1 = .ok result) : result.ownId = id := by
  obtain ⟨object, there, applies⟩ := patched?_of_accepted accepted
  obtain rfl : object.ownId = id := own kind id object there
  exact Resource.ownId_patched_of_keepsId keeps applies

/-- A get that finds what is stored answers an object of the id asked for. -/
theorem ownId_of_found (own : Law.ownId.Holds c) (unscripted : c.scripted kind id = [])
    {object : Resource kind} (found : (c.answer (.get kind id)).1 = .ok (some object)) :
    object.ownId = id := by
  rw [answer_get, unscripted] at found
  exact own kind id object (Except.ok.inj found)

/-- **Objects are found under their own ids.** Whatever has been done to a cluster that was empty, if no
update gave an object another id, then every object is stored under the namespace and the name in its
metadata, and a get without a scripted reading and an update that gives no other id, too, answer the
object that was asked for. -/
theorem stored_by_own_id (actions : List Action)
    (keep : ∀ kind id patch, .call (.update kind id patch) ∈ actions → patch.value.KeepsId id) :
    let c := (record actions).2
    (∀ kind id object, c.stored kind id = some object → object.ownId = id) ∧
      (∀ kind id object, c.scripted kind id = [] → (c.answer (.get kind id)).1 = .ok (some object) →
        object.ownId = id) ∧
      (∀ kind id patch result, patch.value.KeepsId id →
        (c.answer (.update kind id patch)).1 = .ok result → result.ownId = id) := by
  have respect : ∀ action ∈ actions, Law.ownId.Respects action := by
    intro action mem
    apply Law.respects_ownId
    rintro kind id patch rfl
    exact keep kind id patch mem
  have own := Law.holds_record actions respect
  refine ⟨own, ?_, ?_⟩
  · intro kind id object unscripted found
    exact ownId_of_found own unscripted found
  · intro kind id patch result keeps accepted
    exact ownId_of_accepted own keeps accepted

/-- A machine that is put in, reported as ready and put into its own namespace again, and one that is
created where none was. -/
theorem stored_by_own_id_of_updates :
    let machine : Resource .virtualMachine := ⟨{ name := some "a", space := some "n" }, {}, none⟩
    let other : Resource .virtualMachine := ⟨{ generateName := some "b", space := some "n" }, {}, none⟩
    let reports : Freeform := ⟨.object [("metadata", .object [("namespace", .text "n")]),
      ("status", .object [("ready", .bool true)])], by decide +kernel, rfl⟩
    let actions : List Action := [.add machine, .call (.update .virtualMachine machine.ownId reports),
      .call (.create other)]
    let c := (record actions).2
    (∀ kind id object, c.stored kind id = some object → object.ownId = id) ∧
      (c.stored .virtualMachine ⟨"n", "a"⟩).isSome = true ∧
      (c.stored .virtualMachine ⟨"n", "b"⟩).isSome = true := by
  intro machine other reports actions c
  have keeps : reports.value.KeepsId machine.ownId := {
    notList := nofun
    name := .inl ⟨rfl, rfl⟩
    space := .inr rfl }
  have keep : ∀ kind id patch, .call (.update kind id patch) ∈ actions → patch.value.KeepsId id := by
    intro kind id patch mem
    simp only [actions, List.mem_cons, reduceCtorEq, Action.call.injEq, Call.update.injEq, List.not_mem_nil,
      or_false, false_or] at mem
    obtain ⟨rfl, rfl, rfl⟩ := mem
    exact keeps
  exact ⟨(stored_by_own_id actions keep).1, by decide +kernel, by decide +kernel⟩

/-- An update that gives another name or namespace is accepted like any other. What it leaves then stands
where the object with the old id stood. -/
theorem stored_of_givesOtherId (gives : patch.value.GivesOtherId id)
    {result : Resource kind} (accepted : (c.answer (.update kind id patch)).1 = .ok result) :
    (c.answer (.update kind id patch)).2.stored kind id = some result ∧ result.ownId ≠ id := by
  constructor
  · have effect := c.effect_answer (.update kind id patch)
    rw [accepted] at effect
    rw [effect.stored]
    simp only [Event.change?, Option.bind_some, Change.at?, and_self, dif_pos]
    rfl
  · obtain ⟨object, -, applies⟩ := patched?_of_accepted accepted
    exact Resource.ownId_patched_of_givesOtherId gives applies

/-- A machine that is given another name stays under its old one, and a get of the old name answers it. -/
theorem stored_by_other_id :
    let machine : Resource .virtualMachine := ⟨{ name := some "a", space := some "n" }, {}, none⟩
    let renames : Freeform := ⟨.object [("metadata", .object [("name", .text "b")])], by decide +kernel, rfl⟩
    let c := (record [.add machine, .call (.update .virtualMachine ⟨"n", "a"⟩ renames)]).2
    ∃ object, c.stored .virtualMachine ⟨"n", "a"⟩ = some object ∧ object.ownId = ⟨"n", "b"⟩ ∧
      (c.answer (.get .virtualMachine ⟨"n", "a"⟩)).1 = .ok (some object) ∧
      ¬ ∀ kind id object, c.stored kind id = some object → object.ownId = id := by
  intro machine renames c
  have found : (c.stored .virtualMachine ⟨"n", "a"⟩).map Resource.ownId = some ⟨"n", "b"⟩ := by
    decide +kernel
  have unscripted : (c.scripted .virtualMachine ⟨"n", "a"⟩).isEmpty = true := by decide +kernel
  obtain ⟨object, there, own⟩ := Option.map_eq_some_iff.mp found
  refine ⟨object, there, own, ?_, ?_⟩
  · rw [answer_get, List.isEmpty_iff.mp unscripted, ← there]
    rfl
  · intro placed
    have same := placed _ _ _ there
    rw [own] at same
    exact absurd same (by decide)

end Cluster

end VirtLifecycle
