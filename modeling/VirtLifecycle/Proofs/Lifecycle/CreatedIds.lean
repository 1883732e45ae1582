/-
Module: VirtLifecycle.Proofs.Lifecycle.CreatedIds
Purpose: What can be done with the id that a creation answers. Reading under it finds the object that was
  created. Its written form is read as the same id, unless there is a slash in the name of the object or
  in its namespace: a creation takes such an object, but what it answers then is no written id.
Main exports: Lifecycle.created_id_reads_back, Lifecycle.created_id_malformed
-/
import VirtLifecycle.Proofs.Cluster.Events
import VirtLifecycle.Proofs.Config.Loading
import VirtLifecycle.Proofs.Lifecycle.Failure
import VirtLifecycle.Proofs.ResourceId

namespace VirtLifecycle.Lifecycle

variable {config : Config} {kind : Kind} {id : ResourceId}

/-- The id of a prepared object has a name, and the namespace of the object or of the configuration. -/
theorem parts_of_prepare {object submitted : Resource kind}
    (prepares : prepare config object = .ok (id, submitted)) :
    id.name ≠ "" ∧ (id.space ≠ "" ∨ id.space = config.space) := by
  have prepared := prepare_eq_ok_iff.mp prepares
  refine ⟨prepared.named, ?_⟩
  by_cases configured : config.space = ""
  · by_cases empty : id.space = ""
    · exact .inr (empty.trans configured.symm)
    · exact .inl empty
  · exact .inl (prepared.spaced configured)

/-- A creation that is not waited for ends well only if it was accepted: then the object stands where
none was, under the id that is answered. -/
theorem created_of_succeeded (noWait : config.wait = false) {object created : Resource kind}
    {before : Cluster} {now time : Nat}
    (ended : ((Lifecycle.create config object now).run Cluster.respond before).result =
      some (.ok (id, created), time)) :
    prepare config object = .ok (id, created) ∧
      ((Lifecycle.create config object now).run Cluster.respond before).final =
        before.counted.store kind id (some created) := by
  cases prepares : prepare config object with
  | error error =>
    rw [Lifecycle.create, prepares] at ended
    cases ended
  | ok prepared =>
    obtain ⟨id', submitted⟩ := prepared
    obtain ⟨-, spaced, placed⟩ := prepare_eq_ok prepares
    rw [create_of_prepared prepares] at ended ⊢
    rcases before.answer_create submitted with ⟨cause, answered⟩ | ⟨space, space_eq, free, answered⟩
    · obtain ⟨time', calls, run⟩ := run_call_bind_of_error (afterCreate config id') answered now
      rw [run] at ended
      cases ended
    · cases spaced.symm.trans space_eq
      rw [placed] at answered
      obtain ⟨later, run⟩ := run_call_bind_of_ok (afterCreate config id') answered now
      have quiet : afterCreate config id' submitted later = .done (.ok (id', submitted), later) := by
        rw [afterCreate, noWait]
        rfl
      rw [run, quiet] at ended ⊢
      cases ended
      exact ⟨rfl, rfl⟩

/-- A read that is not scripted finds what is stored. -/
theorem result_read_of_stored {c : Cluster} {object : Resource kind} (unscripted : c.scripted kind id = [])
    (stored : c.stored kind id = some object) (now : Nat) :
    ((Lifecycle.read kind id now).run Cluster.respond c).result = some (.ok object, now) := by
  have answered : (c.answer (.get kind id)).1 = .ok (some object) := by
    rw [Cluster.answer_get, unscripted, stored]
    rfl
  have replied : (Cluster.respond c now (.get kind id)).1 = (.ok (some object), .zero) :=
    congrArg (·, Duration.zero) answered
  have awake : Clock.sleepUntil now (now + Duration.zero.nanos) = now := if_pos (Nat.le_refl _)
  unfold Lifecycle.read
  rw [Operation.run_call_bind, replied, awake]
  rfl

/-- **Ids that are answered read back.** Whatever object is created under an accepted configuration, in a
cluster in memory in whatever state, if it is not waited for and the creation succeeds: reading under the
id finds the object as it was created, and the written form of the id is read as that id if there is no
slash in its parts, and is malformed if there is one. -/
theorem created_id_reads_back {lookup : Config.Lookup} (accepted : Config.ofLookup lookup = .ok config)
    (noWait : config.wait = false) {object created : Resource kind} {before : Cluster} {now time : Nat}
    (unscripted : before.scripted kind id = [])
    (ended : ((Lifecycle.create config object now).run Cluster.respond before).result =
      some (.ok (id, created), time)) :
    created = object.inSpace id.space ∧
      (∀ later, ((Lifecycle.read kind id later).run Cluster.respond
          ((Lifecycle.create config object now).run Cluster.respond before).final).result =
        some (.ok created, later)) ∧
      (id.IsUnslashed → ResourceId.ofText id.text = .ok id) ∧
      (¬ id.IsUnslashed → ResourceId.ofText id.text = .error (.invalidId (.malformed id.text))) := by
  obtain ⟨prepares, final⟩ := created_of_succeeded noWait ended
  obtain ⟨named, spaced⟩ := parts_of_prepare prepares
  have configured : config.space ≠ "" := Config.space_ne_empty_of_ofLookup accepted
  have space : id.space ≠ "" := by
    rcases spaced with spaced | default
    · exact spaced
    · rwa [default]
  refine ⟨(prepare_eq_ok prepares).1, fun later => ?_, fun unslashed => ?_, fun slashed => ?_⟩
  · rw [final]
    apply result_read_of_stored
    · exact unscripted
    · exact dif_pos ⟨rfl, rfl⟩
  · exact ResourceId.ofText_eq_ok_iff.mpr ((ResourceId.ofText?_text id).mpr ⟨unslashed, space, named⟩)
  · apply ResourceId.ofText_text_of_not_isLegible
    intro legible
    exact slashed legible.toIsUnslashed

/-- A machine that names no namespace, created in the configured one. -/
theorem created_id_reads_back_of_machine :
    let lookup : Config.Lookup := fun name =>
      if name = "KUBEVIRT_NAMESPACE" then some " vms " else if name = "KUBEVIRT_WAIT" then some "No" else none
    let config : Config := { Config.standard with space := "vms", wait := false }
    let object : Resource .virtualMachine := ⟨{ name := some "a", space := some "" }, {}, none⟩
    let id : ResourceId := ⟨"vms", "a"⟩
    let run := (Lifecycle.create config object 7).run Cluster.respond .empty
    Config.ofLookup lookup = .ok config ∧ config.wait = false ∧
      Cluster.empty.scripted .virtualMachine id = [] ∧
      run.result = some (.ok (id, object.inSpace "vms"), 7) ∧
      ((Lifecycle.read .virtualMachine id 9).run Cluster.respond run.final).result =
        some (.ok (object.inSpace "vms"), 9) ∧
      id.text = "vms/a" ∧ ResourceId.ofText "vms/a" = .ok id := by
  intro lookup config object id run
  have accepted : Config.ofLookup lookup = .ok config := rfl
  have ended : run.result = some (.ok (id, object.inSpace "vms"), 7) := rfl
  obtain ⟨-, reads, parses, -⟩ := created_id_reads_back accepted rfl rfl ended
  have unslashed : id.IsUnslashed := ⟨by decide, by decide⟩
  exact ⟨accepted, rfl, rfl, ended, reads 9, rfl, parses unslashed⟩

/-- A machine with a slash in its name is created, and the id that is answered is malformed when it is
handed back. -/
theorem created_id_malformed :
    let lookup : Config.Lookup := fun name => if name = "KUBEVIRT_WAIT" then some "no" else none
    let config : Config := { Config.standard with wait := false }
    let object : Resource .virtualMachine := ⟨{ name := some "a/b" }, {}, none⟩
    let id : ResourceId := ⟨"default", "a/b"⟩
    Config.ofLookup lookup = .ok config ∧
      ((Lifecycle.create config object 0).run Cluster.respond .empty).result =
        some (.ok (id, object.inSpace "default"), 0) ∧
      id.text = "default/a/b" ∧
      ResourceId.ofText "default/a/b" = .error (.invalidId (.malformed "default/a/b")) := by
  intro lookup config object id
  exact ⟨rfl, rfl, rfl, rfl⟩

end VirtLifecycle.Lifecycle
