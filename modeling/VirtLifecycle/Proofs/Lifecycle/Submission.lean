/-
Module: VirtLifecycle.Proofs.Lifecycle.Submission
Purpose: Creations of prepared objects. No client misses a namespace in what is submitted, and a cluster in
  memory stores it under the id that is answered.
Main exports: Lifecycle.onlyEnds_create, Lifecycle.StoredByCreate, Lifecycle.prepared_once_for_all
-/
import VirtLifecycle.Proofs.Cluster.Namespaces
import VirtLifecycle.Proofs.Lifecycle.Causes

namespace VirtLifecycle.Lifecycle

open Cluster (setAt counted)

variable {config : Config} {kind : Kind} {object submitted : Resource kind} {id : ResourceId}

/-- A creation does not fail because a namespace is missing, neither when the object is submitted nor when
it is waited for. -/
theorem onlyEnds_create (config : Config) (object : Resource kind) :
    Operation.OnlyEnds
      (fun call reply => ∀ what, reply = .error (.noNamespace what) → call.LacksSpace)
      (fun result => ∀ e, result = .error e → ∀ what, e.clientCause? ≠ some (.noNamespace what))
      (Lifecycle.create config object) := by
  cases prepares : prepare config object with
  | error e =>
    obtain ⟨-, rfl⟩ := prepare_eq_error_iff.mp prepares
    unfold Lifecycle.create
    rw [prepares]
    refine Operation.onlyEnds_fail ?_
    rintro e ⟨⟩ what ⟨⟩
  | ok prepared =>
    obtain ⟨id, submitted⟩ := prepared
    have spaced := (prepare_eq_ok_iff.mp prepares).space_eq.1
    rw [create_of_prepared prepares]
    refine (Operation.onlyEnds_call _).bind ?_ fun accepted _ => ?_
    · rintro e ⟨reply, replied, failed⟩
      cases reply with
      | ok accepted => cases failed
      | error cause =>
        cases failed
        rintro e ⟨⟩ what ⟨⟩
        -- the object that was submitted has a namespace
        cases spaced.symm.trans (replied what rfl)
    · refine (onlyEnds_afterCreate (Q := fun cause => ∀ what, cause ≠ .noNamespace what)
        (fun cause replied what missed => ?_) accepted).mono fun result told e failed what missed => ?_
      · exact replied what (congrArg _ missed)
      · exact told.1 e failed _ missed what rfl

/-- What becomes of a prepared object in a cluster in memory. -/
structure StoredByCreate {kind : Kind} (id : ResourceId) (submitted : Resource kind) (before : Cluster)
    (run : Plan.Run Call Cluster (Except LifecycleError (ResourceId × Resource kind) × Nat)) : Prop where
  /-- it is stored under its id, if that is free and no failure is arranged -/
  stored : before.armed = none → before.stored kind id = none →
    run.final.stored = setAt before.stored kind id (some submitted)
  /-- otherwise the creation fails, and nothing is stored -/
  refused : before.armed ≠ none ∨ before.stored kind id ≠ none →
    (∃ cause time, run.result = some (.error (.client cause), time)) ∧
      run.final.stored = before.stored
  /-- the id that is answered is the one under which the object is stored -/
  answered : ∀ id' created time, run.result = some (.ok (id', created), time) →
    id' = id ∧ run.final.stored kind id' = some submitted

theorem storedByCreate (prepares : prepare config object = .ok (id, submitted)) (before : Cluster)
    (now : Nat) :
    StoredByCreate id submitted before
      ((Lifecycle.create config object now).run Cluster.respond before) := by
  obtain ⟨spaced, placed⟩ := (prepare_eq_ok_iff.mp prepares).space_eq
  rw [create_of_prepared prepares]
  by_cases taken : before.armed ≠ none ∨ before.stored kind id ≠ none
  · obtain ⟨cause, answered⟩ := before.answer_create_of_taken spaced (placed.symm ▸ taken)
    obtain ⟨time, calls, run⟩ := run_call_bind_of_error (afterCreate config id) answered now
    rw [run]
    refine ⟨fun unarmed free => ?_, fun _ => ⟨⟨cause, time, rfl⟩, rfl⟩, ?_⟩
    · exact absurd taken (not_or.mpr ⟨fun armed => armed unarmed, fun there => there free⟩)
    · rintro id' created time' ⟨⟩
  · obtain ⟨unarmed, free⟩ : before.armed = none ∧ before.stored kind id = none := by
      simpa only [ne_eq, not_or, Decidable.not_not] using taken
    have accepted := before.answer_create_of_free unarmed spaced (placed.symm ▸ free)
    rw [placed] at accepted
    obtain ⟨later, run⟩ := run_call_bind_of_ok (afterCreate config id) accepted now
    obtain ⟨kept, -⟩ := Cluster.holdsSame_of_onlyAsks (before.counted.store kind id (some submitted))
      (onlyAsks_afterCreate config id submitted later) fun call get => ⟨kind, id, get⟩
    have same : Plan.OnlyEnds _ _ (afterCreate config id submitted later) :=
      onlyEnds_afterCreate (R := fun _ _ => True) (Q := fun _ => True) (fun _ _ => trivial) submitted later
    rw [run]
    refine ⟨fun _ _ => kept, fun taken' => absurd taken' taken, fun id' created time ended => ?_⟩
    obtain rfl := (same.result (fun _ _ _ => trivial) _ ended).2 id' created rfl
    refine ⟨rfl, ?_⟩
    rw [Plan.Run.final_after, kept]
    exact dif_pos ⟨rfl, rfl⟩

/-- **An object is prepared once and for all.** If objects without a namespace are put into one with a name:
exactly the objects without a name are refused, as such; any other object gets an id and the namespace of
that id, and nothing else of it changes. The id of what comes out is the same whatever namespace others
get, and preparing it again changes nothing under any configuration. A cluster in memory stores it under
that id, which is the one that is answered. No creation fails because a namespace is missing, whoever
answers the calls, as long as none is missed in objects that have one; neither a cluster in memory nor one
behind a connection does so. -/
theorem prepared_once_for_all (configured : config.space ≠ "") (object : Resource kind) :
    (∀ error, prepare config object = .error error ↔
      object.IsUnnamed ∧ error = .invalidId .noName) ∧
    (¬ object.IsUnnamed → ∃ id submitted, prepare config object = .ok (id, submitted)) ∧
    (∀ id submitted, prepare config object = .ok (id, submitted) →
      IsPrepared object config.space id submitted ∧
      (∀ space, ResourceId.of submitted space = .ok id) ∧
      (∀ other : Config, prepare other submitted = .ok (id, submitted)) ∧
      ∀ before now, StoredByCreate id submitted before
        ((Lifecycle.create config object now).run Cluster.respond before)) ∧
    (∀ (σ : Type) (respond : Plan.Responder Call Call.Reply σ), Call.MissesOnlyLacking respond →
      ∀ state now error time,
        ((Lifecycle.create config object now).run respond state).result = some (.error error, time) →
        ∀ what, error.clientCause? ≠ some (.noNamespace what)) ∧
    Call.MissesOnlyLacking Cluster.respond ∧ Call.MissesOnlyLacking Connection.respond := by
  refine ⟨fun error => prepare_eq_error_iff, fun named => ?_, fun id submitted prepares => ?_,
    fun σ respond misses state now error time ended => ?_, Call.missesOnlyLacking_inMemory,
    Call.missesOnlyLacking_overHttp⟩
  · cases prepares : prepare config object with
    | error error => exact absurd (prepare_eq_error_iff.mp prepares).1 named
    | ok prepared => exact ⟨prepared.1, prepared.2, rfl⟩
  · have prepared := prepare_eq_ok_iff.mp prepares
    refine ⟨prepared, fun space => ?_, fun other => ?_, storedByCreate prepares⟩
    · exact ResourceId.of_eq_ok_iff.mpr (prepared.isOf_submitted configured space)
    · exact prepare_eq_ok_iff.mpr (prepared.again configured other.space)
  · have only := onlyEnds_create config object now
    exact only.result (fun state now call => misses state now call) state ended error rfl

/-- A machine with a name, a stem for names and an empty namespace, and one whose name is empty. -/
theorem prepared_once_for_all_of_machine :
    let config : Config := { Config.standard with wait := false }
    let machine : Resource .virtualMachine :=
      ⟨{ name := some "a", generateName := some "b-", space := some "" }, {}, none⟩
    let nameless : Resource .virtualMachine := ⟨{ name := some "", generateName := some "b-" }, {}, none⟩
    let id : ResourceId := ⟨"default", "a"⟩
    let run := (Lifecycle.create config machine 0).run Cluster.respond .empty
    config.space ≠ "" ∧
      prepare config machine = .ok (id, machine.inSpace "default") ∧
      prepare { config with space := "vms" } (machine.inSpace "default") =
        .ok (id, machine.inSpace "default") ∧
      run.result = some (.ok (id, machine.inSpace "default"), 0) ∧
      run.final.stored .virtualMachine id = some (machine.inSpace "default") ∧
      nameless.IsUnnamed ∧ prepare config nameless = .error (.invalidId .noName) ∧
      ∀ error time,
        ((Lifecycle.create config machine 0).run Connection.respond ⟨[], []⟩).result =
          some (.error error, time) → ∀ what, error.clientCause? ≠ some (.noNamespace what) := by
  intro config machine nameless id run
  have configured : config.space ≠ "" := by decide
  have prepares : prepare config machine = .ok (id, machine.inSpace "default") := rfl
  have ended : run.result = some (.ok (id, machine.inSpace "default"), 0) := rfl
  have unnamed : nameless.IsUnnamed := .inr rfl
  obtain ⟨-, -, prepared, missing, -, overHttp⟩ := prepared_once_for_all configured machine
  obtain ⟨-, -, again, stored⟩ := prepared id (machine.inSpace "default") prepares
  obtain ⟨refused, -⟩ := prepared_once_for_all configured nameless
  refine ⟨configured, prepares, again _, ended, ?_, unnamed, (refused _).mpr ⟨unnamed, rfl⟩, ?_⟩
  · exact ((stored .empty 0).answered id _ 0 ended).2
  · exact missing Connection Connection.respond overHttp ⟨[], []⟩ 0

end VirtLifecycle.Lifecycle
