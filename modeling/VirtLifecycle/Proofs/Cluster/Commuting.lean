/-
Module: VirtLifecycle.Proofs.Cluster.Commuting
Purpose: Updates of one object that change different members commute, although the object is read and
  written again in between. Whichever update comes first, the same is stored in the end, and each one
  succeeds if it would succeed alone.
Main exports: Resource.isSome_rewrite_encode, Resource.patched_again, Resource.encode_updated_comm,
  Law.holds_record_of_decode?, Cluster.updated, Cluster.updates_commute
-/
import VirtLifecycle.Proofs.Cluster.Invariants
import VirtLifecycle.Proofs.Resource.Merging

namespace VirtLifecycle

open Json (mergePatch Compatible)
open Cluster (patched?)

/-! ### Patches of one object -/

namespace Resource

variable {k : Kind} {object : Resource k}

/-- Every object can be read from what is written for it. -/
theorem isSome_rewrite_encode (object : Resource k) :
    ((record k).rewrite object.encode.canonical).isSome = true := by
  have again : decode? k object.encode.canonical = some ((codec k).reread object) :=
    (codec k).read_write .canonical object
  rw [← rewrite_eq k (Json.isCanonical_canonical _), again]
  rfl

/-- What a patch leaves is written as the merged document is rewritten. -/
theorem map_encode_patched? (object : Resource k) (patch : Freeform) :
    (patched? object patch).map encode =
      (record k).rewrite (mergePatch object.encode.canonical patch.value) :=
  rewrite_eq k (Json.isCanonical_mergePatch patch.value (Json.isCanonical_canonical _) patch.canonical)

variable {patch patch' : Freeform}

/-- After one patch, a compatible one leaves what both merged into the document leave. -/
theorem patched_again (compatible : Compatible patch.value patch'.value) {result : Resource k}
    (applies : patched? object patch = some result) :
    (patched? result patch').map encode =
      (record k).rewrite (mergePatch (mergePatch object.encode.canonical patch.value) patch'.value) := by
  have written := map_encode_patched? object patch
  rw [applies, Option.map_some] at written
  rw [map_encode_patched? result patch']
  have document := Json.isCanonical_canonical object.encode
  have canonical := patch.canonical
  have canonical' := patch'.canonical
  obtain ⟨changes, changes', shown, shown'⟩ := compatible.exists_object
  rw [shown] at canonical compatible written ⊢
  rw [shown'] at canonical' compatible ⊢
  exact Record.rewrite_after (mergeable_record k) object.notList_encode
    (Json.isCanonical_mergePatch _ document canonical) canonical'
    (Json.find?_mergePatch document canonical)
    (Json.concurrent_members compatible document canonical canonical') written.symm

/-- Two compatible patches can both be applied if each can be applied alone. -/
theorem isSome_both (object : Resource k) (compatible : Compatible patch.value patch'.value) :
    ((record k).rewrite
        (mergePatch (mergePatch object.encode.canonical patch.value) patch'.value)).isSome = true ↔
      (patched? object patch).isSome = true ∧ (patched? object patch').isSome = true := by
  have written : ∀ patch : Freeform, ((patched? object patch).isSome = true ↔
      ((record k).rewrite (mergePatch object.encode.canonical patch.value)).isSome = true) := by
    intro patch
    rw [← map_encode_patched? object patch, Option.isSome_map]
  rw [written patch, written patch']
  have document := Json.isCanonical_canonical object.encode
  have canonical := patch.canonical
  have canonical' := patch'.canonical
  obtain ⟨changes, changes', shown, shown'⟩ := compatible.exists_object
  rw [shown] at canonical compatible ⊢
  rw [shown'] at canonical' compatible ⊢
  apply Record.isSome_rewrite_both (mergeable_record k) object.notList_encode document canonical
    canonical' compatible
  have shape : (record k).rewrite object.encode.canonical =
      (gather object.encode.canonical.find? (record k).slots).map .object := rfl
  have rewritten := object.isSome_rewrite_encode
  rwa [shape, Option.isSome_map] at rewritten

/-- The object after an update, the same if that fails. -/
def updated (object : Resource k) (patch : Freeform) : Resource k :=
  (patched? object patch).getD object

/-- Whether a patch can be applied does not depend on a compatible one that may come before. -/
theorem isSome_patched?_updated (object : Resource k) (compatible : Compatible patch.value patch'.value) :
    (patched? (object.updated patch) patch').isSome = (patched? object patch').isSome := by
  cases applies : patched? object patch with
  | none => rw [updated, applies, Option.getD_none]
  | some result =>
    have both := isSome_both object compatible
    rw [← patched_again compatible applies, applies, Option.isSome_map] at both
    rw [updated, applies, Option.getD_some, Bool.eq_iff_iff, both]
    exact and_iff_right rfl

/-- If both of two compatible patches can be applied, the object after both is written as the document
with both merged into it is rewritten. -/
theorem map_encode_updated_updated (compatible : Compatible patch.value patch'.value)
    (applies : (patched? object patch).isSome = true) (applies' : (patched? object patch').isSome = true) :
    some ((object.updated patch).updated patch').encode =
      (record k).rewrite (mergePatch (mergePatch object.encode.canonical patch.value) patch'.value) := by
  have second := object.isSome_patched?_updated compatible
  obtain ⟨result, applies⟩ := Option.isSome_iff_exists.mp applies
  rw [applies'] at second
  obtain ⟨result', second⟩ := Option.isSome_iff_exists.mp second
  have first : object.updated patch = result := by rw [updated, applies, Option.getD_some]
  rw [first] at second ⊢
  rw [← patched_again compatible applies, updated, second]
  rfl

/-- Compatible updates leave objects that are written alike, in either order. -/
theorem encode_updated_comm (object : Resource k) (compatible : Compatible patch.value patch'.value) :
    ((object.updated patch).updated patch').encode = ((object.updated patch').updated patch).encode := by
  have second := object.isSome_patched?_updated compatible
  have second' := object.isSome_patched?_updated compatible.symm
  -- a patch that cannot be applied cannot be applied after the other one either
  have skipped : ∀ {o : Resource k} {p : Freeform}, (patched? o p).isSome = false → o.updated p = o := by
    intro o p fails
    rw [Option.isSome_eq_false_iff, Option.isNone_iff_eq_none] at fails
    rw [updated, fails, Option.getD_none]
  cases applies : (patched? object patch).isSome with
  | false =>
    rw [applies] at second'
    rw [skipped applies, skipped second']
  | true =>
    cases applies' : (patched? object patch').isSome with
    | false =>
      rw [applies'] at second
      rw [skipped applies', skipped second]
    | true =>
      have merged := map_encode_updated_updated compatible applies applies'
      have merged' := map_encode_updated_updated compatible.symm applies' applies
      have document := Json.isCanonical_canonical object.encode
      rw [Json.mergePatch_comm compatible document patch.canonical patch'.canonical] at merged
      exact Option.some.inj (merged.trans merged'.symm)

end Resource

/-! ### Updates of a cluster -/

/-- Whatever is done to a cluster that was empty, a law about all that has been read holds if the objects
that are put in keep it. -/
theorem Law.holds_record_of_decode? {law : Law}
    (reads : ∀ {kind : Kind} {id : ResourceId} {value : Json} {object : Resource kind},
      Resource.decode? kind value = some object → law kind id object)
    (actions : List Action)
    (puts : ∀ {kind : Kind} (object : Resource kind),
      .add object ∈ actions ∨ .call (.create object) ∈ actions → law kind object.ownId object) :
    law.Holds (Cluster.record actions).2 := by
  apply holds_record
  intro action mem
  cases action with
  | script | holds | arm => trivial
  | add object => exact puts object (.inl mem)
  | call call =>
    cases call with
    | get | delete => trivial
    | create object => exact puts object (.inr mem)
    | update kind id patch => exact fun object result _ applies => reads applies

namespace Cluster

variable (c : Cluster) {kind : Kind} {id : ResourceId} {object : Resource kind} {patch patch' : Freeform}

/-- What an update leaves. One that fails leaves all as it was. -/
def updated (kind : Kind) (id : ResourceId) (patch : Freeform) : Cluster :=
  match c.update kind id patch with
  | .ok (_, after) => after
  | .error _ => c

theorem isOk_update (there : c.stored kind id = some object) :
    (c.update kind id patch).isOk = (patched? object patch).isSome := by
  rw [update, there]
  cases applies : patched? object patch <;> simp only [applies] <;> rfl

/-- An update is one of the object. -/
theorem stored_updated (there : c.stored kind id = some object) :
    (c.updated kind id patch).stored kind id = some (object.updated patch) := by
  rw [updated, update, there, Resource.updated]
  cases applies : patched? object patch with
  | none =>
    simp only [applies, Option.getD_none]
    exact there
  | some result =>
    simp only [applies, store, setAt, and_self, dif_pos]
    rfl

/-- An update leaves all other objects as they were. -/
theorem stored_updated_of_ne {k : Kind} {i : ResourceId} (other : ¬ (k = kind ∧ i = id)) :
    (c.updated kind id patch).stored k i = c.stored k i := by
  rw [updated]
  split
  · rename_i answer after updates
    rw [update] at updates
    split at updates
    · cases updates
    · split at updates
      · cases updates
      · cases updates
        exact dif_neg other
  · rfl

/-- **Updates of different members commute.** Of two compatible patches of a stored object, each is applied
after the other exactly if it can be applied at once. Either order leaves objects that are written alike,
under every id. If both patches can be applied, what is written is what is read from the document with both
merged into it, so neither is lost. -/
theorem updates_commute (there : c.stored kind id = some object)
    (compatible : Compatible patch.value patch'.value) :
    let oneWay := (c.updated kind id patch).updated kind id patch'
    let otherWay := (c.updated kind id patch').updated kind id patch
    ((c.updated kind id patch').update kind id patch).isOk = (c.update kind id patch).isOk ∧
      ((c.updated kind id patch).update kind id patch').isOk = (c.update kind id patch').isOk ∧
      (∀ k i, (oneWay.stored k i).map Resource.encode = (otherWay.stored k i).map Resource.encode) ∧
      ((c.update kind id patch).isOk = true → (c.update kind id patch').isOk = true →
        (oneWay.stored kind id).map Resource.encode =
          (Resource.decode? kind
            (mergePatch (mergePatch object.encode.canonical patch.value) patch'.value)).map
              Resource.encode) := by
  intro oneWay otherWay
  have stored : oneWay.stored kind id = some ((object.updated patch).updated patch') :=
    stored_updated _ (c.stored_updated there)
  have stored' : otherWay.stored kind id = some ((object.updated patch').updated patch) :=
    stored_updated _ (c.stored_updated there)
  refine ⟨?_, ?_, fun k i => ?_, fun applies applies' => ?_⟩
  · rw [isOk_update _ (c.stored_updated there), c.isOk_update there]
    exact object.isSome_patched?_updated compatible.symm
  · rw [isOk_update _ (c.stored_updated there), c.isOk_update there]
    exact object.isSome_patched?_updated compatible
  · by_cases here : k = kind ∧ i = id
    · obtain ⟨rfl, rfl⟩ := here
      rw [stored, stored', Option.map_some, Option.map_some, object.encode_updated_comm compatible]
    · rw [stored_updated_of_ne _ here, c.stored_updated_of_ne here, stored_updated_of_ne _ here,
        c.stored_updated_of_ne here]
  · rw [c.isOk_update there] at applies applies'
    have document := Json.isCanonical_canonical object.encode
    have merged := Json.isCanonical_mergePatch _ (Json.isCanonical_mergePatch _ document patch.canonical)
      patch'.canonical
    rw [stored, Option.map_some, Resource.map_encode_updated_updated compatible applies applies']
    exact (Resource.rewrite_eq kind merged).symm

/-- A machine is reported as created by one client, while another one asks for it to run and reports it
as ready. -/
theorem updates_commute_of_machine :
    let machine : Resource .virtualMachine := ⟨{ name := some "m", space := some "n" }, {}, none⟩
    let id : ResourceId := ⟨"n", "m"⟩
    let patch : Freeform := ⟨.object [("status", .object [("created", .bool true)])],
      by decide +kernel, rfl⟩
    let patch' : Freeform := ⟨.object [("spec", .object [("running", .bool true)]),
      ("status", .object [("ready", .bool true)])], by decide +kernel, rfl⟩
    let c := empty.add machine
    let oneWay := (c.updated .virtualMachine id patch).updated .virtualMachine id patch'
    let otherWay := (c.updated .virtualMachine id patch').updated .virtualMachine id patch
    c.stored .virtualMachine id = some machine ∧
      (oneWay.stored .virtualMachine id).map Resource.encode =
        (otherWay.stored .virtualMachine id).map Resource.encode ∧
      (oneWay.stored .virtualMachine id).map Resource.encode =
        (Resource.decode? .virtualMachine
          (mergePatch (mergePatch machine.encode.canonical patch.value) patch'.value)).map
            Resource.encode ∧
      (oneWay.stored .virtualMachine id).map Resource.readiness = some ⟨true, true⟩ := by
  intro machine id patch patch' c oneWay otherWay
  have there : c.stored .virtualMachine id = some machine := rfl
  have reports : Compatible (.object [("created", .bool true)]) (.object [("ready", .bool true)]) := by
    apply Compatible.object
    intro key change change' found found'
    simp only [Keyed.find?, ite_eq_iff] at found found'
    grind
  have compatible : Compatible patch.value patch'.value := by
    apply Compatible.object
    intro key change change' found found'
    simp only [Keyed.find?, ite_eq_iff] at found found'
    grind
  obtain ⟨-, -, same, merged⟩ := c.updates_commute there compatible
  exact ⟨there, same _ _, merged (by decide +kernel) (by decide +kernel), by decide +kernel⟩

end Cluster

end VirtLifecycle
