/-
Module: VirtLifecycle.Proofs.Cluster.Untouched
Purpose: An update changes only what its patch names. The object is written, merged with the patch and read
  again; what is at paths that the patch does not touch is the same before and after. Only nulls that stand
  for free-form parts are lost on the way, since they are read as parts that are missing. All other objects
  and all scripted readings stay.
Main exports: Resource.fixes_of_full, Resource.at?_patched?, Resource.at?_patched?_of_settled, Law.full,
  Cluster.full_record, Cluster.update_keeps_untouched
-/
import VirtLifecycle.Proofs.Cluster.Commuting
import VirtLifecycle.Proofs.Codec.Nulls
import VirtLifecycle.Proofs.Rewrite.Untouched

namespace VirtLifecycle

open Json (mergePatch Untouched at?)
open Cluster (patched?)

/-! ### One object -/

namespace Resource

variable {k : Kind} {object settled result : Resource k} {patch : Freeform} {path : List String}
  {value : Json}

/-- What is written for an object without nulls for its free-form parts is written for it again once it has
been read. -/
theorem fixes_of_full (full : object.full = true) :
    (record k).rewrite.Fixes object.encode.canonical := by
  have again : decode? k object.encode.canonical = some ((codec k).reread object) :=
    (codec k).read_write .canonical object
  have same : encode ((codec k).reread object) = object.encode := (codec k).write_reread full
  rw [Rewrite.Fixes, ← rewrite_eq k (Json.isCanonical_canonical _), again, Option.map_some, Option.map_some,
    same]

/-- What a patch of an object does not touch is as it was. -/
theorem at?_patched? (full : object.full = true) (applies : patched? object patch = some result)
    (untouched : Untouched patch.value path) (there : at? path object.encode.canonical = some value) :
    at? path result.encode.canonical = some value := by
  have written := map_encode_patched? object patch
  rw [applies, Option.map_some] at written
  have canonical := patch.canonical
  obtain ⟨changes, shown⟩ := untouched.exists_object
  rw [shown] at untouched canonical written
  exact (frames_record k).leaves (Json.isCanonical_canonical _) canonical (fixes_of_full full) untouched
    written.symm there

/-- Nothing changes if an object is written and read again before it is patched. -/
theorem exists_patched?_of_settled (settles : decode? k object.encode.canonical = some settled)
    (isObject : ∃ changes, patch.value = .object changes) (applies : patched? object patch = some result) :
    ∃ again, patched? settled patch = some again ∧ again.encode = result.encode := by
  obtain ⟨changes, shown⟩ := isObject
  -- to read an object again is to patch it with nothing
  let nothing : Freeform := ⟨.object [], ⟨.nil, trivial⟩, rfl⟩
  have unchanged : mergePatch object.encode.canonical nothing.value = object.encode.canonical := by
    rw [encode_eq]
    rfl
  have settles' : patched? object nothing = some settled := by rw [patched?, unchanged, settles]
  have compatible : Json.Compatible nothing.value patch.value := by
    rw [shown]
    refine .object fun _ _ _ found => ?_
    cases found
  have written := patched_again compatible settles'
  rw [unchanged, ← map_encode_patched?, applies] at written
  exact Option.map_eq_some_iff.mp written

/-- What a patch does not touch is as in the object that is read again from what is written. -/
theorem at?_patched?_of_settled (settles : decode? k object.encode.canonical = some settled)
    (applies : patched? object patch = some result) (untouched : Untouched patch.value path)
    (there : at? path settled.encode.canonical = some value) :
    at? path result.encode.canonical = some value := by
  obtain ⟨again, applies', same⟩ := exists_patched?_of_settled settles untouched.exists_object applies
  rw [← same]
  exact at?_patched? (full_of_decode? settles) applies' untouched there

/-- An object that is read again from what is written is written as before, but for nulls. -/
theorem at?_encode_settled (settles : decode? k object.encode.canonical = some settled)
    (there : at? path object.encode.canonical = some value)
    (kept : object.full = true ∨ ¬ value.HoldsNull) : at? path settled.encode.canonical = some value := by
  have again : settled = (codec k).reread object :=
    Option.some.inj (settles.symm.trans ((codec k).read_write .canonical object))
  rcases kept with full | noNull
  · have same : settled.encode = object.encode := again ▸ (codec k).write_reread full
    rw [same]
    exact there
  · rw [again]
    exact (codec k).at?_write_reread there noNull

end Resource

/-! ### Updates of a cluster -/

/-- Stored objects have no free-form part that is there but null. -/
def Law.full : Law := fun _ _ object => object.full = true

namespace Cluster

/-- Whatever is done to a cluster that was empty, stored objects have no free-form part that is there but
null if those that are put in have none. -/
theorem full_record (actions : List Action)
    (puts : ∀ {kind : Kind} (object : Resource kind),
      .add object ∈ actions ∨ .call (.create object) ∈ actions → object.full = true) :
    Law.full.Holds (record actions).2 :=
  Law.holds_record_of_decode? Resource.full_of_decode? actions puts

variable {c after : Cluster} {kind : Kind} {id : ResourceId} {object result : Resource kind} {patch : Freeform}

/-- **An update touches only what its patch names.** An update of a stored object that is accepted leaves
what is at paths that the patch does not touch, although the object is written, merged with the patch and
read again. Only if a free-form part of the object is there but null does it make a difference that the
object is read again. Values without nulls are left as they are all the same, and the others as they are in
the object that is read from what is written, where such a part is missing. The update answers the object
that is stored from then on, which has no such part either; all other objects and all scripted readings are
as before. -/
theorem update_keeps_untouched (there : c.stored kind id = some object)
    (updates : c.update kind id patch = .ok (result, after)) :
    (∀ path value, Untouched patch.value path → at? path object.encode.canonical = some value →
        object.full = true ∨ ¬ value.HoldsNull → at? path result.encode.canonical = some value) ∧
      (∃ settled, Resource.decode? kind object.encode.canonical = some settled ∧
        ∀ path value, Untouched patch.value path → at? path settled.encode.canonical = some value →
          at? path result.encode.canonical = some value) ∧
      after.stored kind id = some result ∧ result.full = true ∧
      (∀ k i, ¬ (k = kind ∧ i = id) → after.stored k i = c.stored k i) ∧
      after.scripted = c.scripted := by
  rw [update, there] at updates
  dsimp only at updates
  cases applies : patched? object patch with
  | none =>
    rw [applies] at updates
    cases updates
  | some patched =>
    rw [applies] at updates
    cases updates
    have settles := (Resource.codec kind).read_write .canonical object
    refine ⟨fun path value untouched found kept => ?_, ⟨_, settles, fun path value untouched found => ?_⟩,
      ?_, ?_, fun k i other => ?_, rfl⟩
    · exact Resource.at?_patched?_of_settled settles applies untouched
        (Resource.at?_encode_settled settles found kept)
    · exact Resource.at?_patched?_of_settled settles applies untouched found
    · exact dif_pos ⟨rfl, rfl⟩
    · exact Resource.full_of_decode? applies
    · exact dif_neg other

/-- A machine whose template gets a member next to one that stays. -/
theorem update_keeps_untouched_of_machine :
    let machine : Resource .virtualMachine :=
      ⟨{ name := some "m", space := some "n" },
        { template := some ⟨.object [("domain", .object [("cpu", .text "4")])], by decide +kernel, rfl⟩ }, none⟩
    let id : ResourceId := ⟨"n", "m"⟩
    let patch : Freeform := ⟨.object [("spec", .object [("template", .object [("domain",
      .object [("memory", .text "1Gi")])])])], by decide +kernel, rfl⟩
    let path := ["spec", "template", "domain", "cpu"]
    let c := empty.add machine
    c.stored .virtualMachine id = some machine ∧ machine.full = true ∧
      (at? path machine.encode.canonical).isSome = true ∧
      ∃ result after, c.update .virtualMachine id patch = .ok (result, after) ∧
        at? path result.encode.canonical = at? path machine.encode.canonical := by
  intro machine id patch path c
  have there : c.stored .virtualMachine id = some machine := rfl
  have full : machine.full = true := rfl
  have present : (at? path machine.encode.canonical).isSome = true := by decide +kernel
  have applies : (patched? machine patch).isSome = true := by decide +kernel
  obtain ⟨value, found⟩ := Option.isSome_iff_exists.mp present
  obtain ⟨result, applies⟩ := Option.isSome_iff_exists.mp applies
  have updates : c.update .virtualMachine id patch =
      .ok (result, c.store .virtualMachine id (some result)) := by
    rw [update, there]
    dsimp only
    rw [applies]
  obtain ⟨keeps, -⟩ := update_keeps_untouched there updates
  have untouched : Untouched patch.value path := .within rfl (.within rfl (.within rfl (.lacks rfl)))
  exact ⟨there, full, present, result, _, updates, (keeps path value untouched found (.inl full)).trans found.symm⟩

/-- A disk whose source is there, but null. An update by the empty patch, which touches nothing, reads the
null as no source at all, and so the path of the source is gone. -/
theorem update_drops_null :
    let disk : Resource .dataVolume :=
      ⟨{ name := some "d", space := some "n" }, { source := some ⟨.null, trivial, rfl⟩ }, none⟩
    let id : ResourceId := ⟨"n", "d"⟩
    let patch : Freeform := ⟨.object [], by decide +kernel, rfl⟩
    let c := empty.add disk
    c.stored .dataVolume id = some disk ∧ disk.full = false ∧
      Untouched patch.value ["spec", "source"] ∧
      at? ["spec", "source"] disk.encode.canonical = some .null ∧
      ∃ result after, c.update .dataVolume id patch = .ok (result, after) ∧
        at? ["spec", "source"] result.encode.canonical = none := by
  intro disk id patch c
  have there : c.stored .dataVolume id = some disk := rfl
  have present : at? ["spec", "source"] disk.encode.canonical = some .null := by
    have null : (at? ["spec", "source"] disk.encode.canonical).any Json.isNull = true := by decide +kernel
    obtain ⟨value, found, null⟩ := Option.any_eq_true .. |>.mp null
    cases value <;> first | exact found | cases null
  have untouched : Untouched patch.value ["spec", "source"] := .lacks rfl
  have applies : (patched? disk patch).isSome = true := by decide +kernel
  obtain ⟨result, applies⟩ := Option.isSome_iff_exists.mp applies
  have gone : at? ["spec", "source"] result.encode.canonical = none := by
    have all : (patched? disk patch).all fun result =>
        (at? ["spec", "source"] result.encode.canonical).isNone := by decide +kernel
    rw [applies] at all
    exact Option.isNone_iff_eq_none.mp all
  have updates : c.update .dataVolume id patch = .ok (result, c.store .dataVolume id (some result)) := by
    rw [update, there]
    dsimp only
    rw [applies]
  exact ⟨there, rfl, untouched, present, result, _, updates, gone⟩

end Cluster

end VirtLifecycle
