/-
Module: VirtLifecycle.Proofs.Lifecycle.Failure
Purpose: What failed operations leave of a cluster in memory. A write that is rejected changes no object.
  What a write has done stays done when the wait after it, or the reading back, fails. A write that
  reaches the cluster is counted once, whatever comes of it.
Main exports: Lifecycle.LeftByCreate, Lifecycle.LeftByUpdate, Lifecycle.LeftByDelete,
  Lifecycle.failed_write_leaves
-/
import VirtLifecycle.Proofs.Cluster.Writes
import VirtLifecycle.Proofs.Lifecycle.Calls
import VirtLifecycle.Proofs.Lifecycle.Endings
import VirtLifecycle.Proofs.Lifecycle.Preparation

namespace VirtLifecycle

/-- The error is the failure of a wait. -/
def LifecycleError.IsWait : LifecycleError → Prop
  | wait _ _ _ _ => True
  | _ => False

namespace Lifecycle

open Cluster (setAt counted)

/-- What is left of a cluster by the creation of an object. -/
structure LeftByCreate (config : Config) {kind : Kind} (object : Resource kind) (before : Cluster)
    (run : Plan.Run Call Cluster (Except LifecycleError (ResourceId × Resource kind) × Nat)) : Prop where
  ends : run.result.isSome
  /-- an object without an id is not sent at all -/
  unsent : ∀ error, prepare config object = .error error → run.calls = [] ∧ run.final = before
  /-- a creation that is sent is counted -/
  writes : ∀ id submitted, prepare config object = .ok (id, submitted) →
    run.final.writes = before.writes + 1
  /-- a failure other than of the wait leaves all objects as they were -/
  unchanged : ∀ error time, run.result = some (.error error, time) → ¬ error.IsWait →
    run.final.stored = before.stored
  /-- if the wait fails, the object stays as it was submitted, and no other one has changed -/
  kept : ∀ error time, run.result = some (.error error, time) → error.IsWait →
    ∃ id, prepare config object = .ok (id, object.inSpace id.space) ∧ before.stored kind id = none ∧
      run.final.stored = setAt before.stored kind id (some (object.inSpace id.space))

/-- What is left of a cluster by an update. -/
structure LeftByUpdate (kind : Kind) (id : ResourceId) (patch : Freeform) (before : Cluster)
    (run : Plan.Run Call Cluster (Except LifecycleError (Resource kind) × Nat)) : Prop where
  ends : run.result.isSome
  writes : run.final.writes = before.writes + 1
  /-- a patch that is rejected leaves everything as it was -/
  unchanged : before.RejectsUpdate kind id patch →
    (∃ cause time, run.result = some (.error (.client cause), time)) ∧ run.final = before.counted
  /-- any other patch is applied, and stays so whatever comes of reading the object back -/
  patched : ¬ before.RejectsUpdate kind id patch →
    ∃ object patched, before.stored kind id = some object ∧
      Cluster.patched? object patch = some patched ∧
      run.final.stored = setAt before.stored kind id (some patched)

/-- What is left of a cluster by a deletion. -/
structure LeftByDelete (kind : Kind) (id : ResourceId) (before : Cluster)
    (run : Plan.Run Call Cluster (Except LifecycleError Unit × Nat)) : Prop where
  ends : run.result.isSome
  writes : run.final.writes = before.writes + 1
  /-- a deletion that is rejected leaves everything as it was -/
  unchanged : ∀ cause time, run.result = some (.error (.client cause), time) →
    run.final = before.counted
  /-- there is no other failure but that of the wait, and then the object is gone, and only that -/
  gone : ∀ error time, run.result = some (.error error, time) → (∀ cause, error ≠ .client cause) →
    error.IsWait ∧ before.holds kind id ∧ run.final.stored = setAt before.stored kind id none

variable {config : Config} {kind : Kind} {id : ResourceId}

/-! ### Creation -/

/-- How a creation goes on when the object is submitted. -/
def afterCreate (config : Config) (id : ResourceId) (submitted : Resource kind) :
    Operation (ResourceId × Resource kind) :=
  if config.wait then do
    let settled ← awaitCreated config kind id (config.timeouts.create kind)
    return (id, settled)
  else return (id, submitted)

/-- A creation whose object can be prepared is its write, and what comes after that. -/
theorem create_of_prepared {object submitted : Resource kind}
    (prepares : prepare config object = .ok (id, submitted)) :
    Lifecycle.create config object = Operation.call (.create submitted) >>= afterCreate config id := by
  rw [Lifecycle.create, prepares]
  rfl

/-- After the submission only gets are made. -/
theorem onlyAsks_afterCreate (config : Config) (id : ResourceId) (submitted : Resource kind) :
    (afterCreate config id submitted).OnlyAsks (· = .get kind id) := by
  unfold afterCreate
  split
  · apply Operation.OnlyAsks.bind
    · exact onlyAsks_awaitCreated config kind id _
    · exact fun settled => Operation.onlyAsks_succeed (id, settled)
  · exact Operation.onlyAsks_succeed (id, submitted)

/-- After the submission only the wait can fail, and only gets are made. -/
theorem afterCreate_ends (id : ResourceId) (positive : 0 < config.pause.nanos) (submitted : Resource kind) :
    (afterCreate config id submitted).EndsWith (fun result => ∀ e, result = .error e → e.IsWait) ∧
      (afterCreate config id submitted).OnlyAsks (· = .get kind id) := by
  refine ⟨?_, onlyAsks_afterCreate config id submitted⟩
  unfold afterCreate
  split
  · refine (endsWith_awaitCreated positive kind id _).bind ?_ fun settled _ => ?_
    · rintro e named e' ⟨⟩
      obtain ⟨cause, rfl⟩ := named e rfl
      exact trivial
    · refine Operation.endsWith_succeed ?_
      rintro e ⟨⟩
  · refine Operation.endsWith_succeed ?_
    rintro e ⟨⟩

/-- A rejected write ends an operation at once. -/
theorem run_call_bind_of_error {α : Type} {c : Call} {before after : Cluster} {cause : ClientError}
    (next : c.Answer → Operation α) (answered : before.answer c = (.error cause, after)) (now : Nat) :
    ∃ time calls, ((Operation.call c >>= next) now).run Cluster.respond before =
      ⟨some (.error (.client cause), time), calls, after⟩ := by
  rw [Operation.run_call_bind]
  simp only [Cluster.respond, answered]
  exact ⟨_, _, rfl⟩

/-- After an accepted write an operation goes on from the changed cluster. -/
theorem run_call_bind_of_ok {α : Type} {c : Call} {before after : Cluster} {answer : c.Answer}
    (next : c.Answer → Operation α) (answered : before.answer c = (.ok answer, after)) (now : Nat) :
    ∃ later, ((Operation.call c >>= next) now).run Cluster.respond before =
      ((next answer later).run Cluster.respond after).after (now, c) := by
  rw [Operation.run_call_bind]
  simp only [Cluster.respond, answered]
  exact ⟨_, rfl⟩

/-- What a creation leaves behind in the cluster is what its write has stored, whether the wait after it
succeeds or not. -/
theorem leftByCreate (positive : 0 < config.pause.nanos) (object : Resource kind) (before : Cluster)
    (now : Nat) :
    LeftByCreate config object before
      ((Lifecycle.create config object now).run Cluster.respond before) := by
  cases prepares : prepare config object with
  | error error =>
    have fails : Lifecycle.create config object now = .done (.error error, now) := by
      rw [Lifecycle.create, prepares]
      rfl
    have noWait : ¬ error.IsWait := by
      rw [(prepare_eq_error_iff.mp prepares).2]
      exact id
    rw [fails]
    refine ⟨rfl, fun _ _ => ⟨rfl, rfl⟩, fun _ _ equal => ?_, fun _ _ _ _ => rfl, ?_⟩
    · cases prepares.symm.trans equal
    · rintro _ _ ⟨⟩ isWait
      exact absurd isWait noWait
  | ok prepared =>
    obtain ⟨id, submitted⟩ := prepared
    obtain ⟨submittedEq, spaced, placed⟩ := prepare_eq_ok prepares
    rw [create_of_prepared prepares]
    have unsent : ∀ error, prepare config object = .error error → False := fun error equal => by
      cases prepares.symm.trans equal
    rcases before.answer_create submitted with ⟨cause, answered⟩ | ⟨space, space_eq, free, answered⟩
    · obtain ⟨time, calls, run⟩ := run_call_bind_of_error (afterCreate config id) answered now
      rw [run]
      refine ⟨rfl, fun e equal => (unsent e equal).elim, fun _ _ _ => rfl, fun _ _ _ _ => rfl, ?_⟩
      rintro _ _ ⟨⟩ ⟨⟩
    · cases spaced.symm.trans space_eq
      rw [placed] at free answered
      obtain ⟨later, run⟩ := run_call_bind_of_ok (afterCreate config id) answered now
      obtain ⟨ending, gets⟩ := afterCreate_ends id positive submitted
      obtain ⟨result, time, ended, waited⟩ := ending Cluster Cluster.respond _ later
      obtain ⟨stored, writes⟩ := Cluster.holdsSame_of_onlyAsks _ (gets later)
        fun call get => ⟨kind, id, get⟩
      rw [run]
      refine ⟨Option.isSome_of_eq_some ended, fun e equal => (unsent e equal).elim,
        fun _ _ _ => writes, fun e time' failed notWait => ?_, fun e time' failed isWait => ?_⟩
      · rw [Plan.Run.result_after, ended] at failed
        cases failed
        exact absurd (waited e rfl) notWait
      · refine ⟨id, submittedEq ▸ prepares, free, ?_⟩
        rw [Plan.Run.final_after, stored, submittedEq]
        rfl

/-! ### Update -/

/-- What an update leaves behind in the cluster is what its write has stored, whatever the read after it
finds. -/
theorem leftByUpdate (kind : Kind) (id : ResourceId) (patch : Freeform) (before : Cluster) (now : Nat) :
    LeftByUpdate kind id patch before
      ((Lifecycle.update kind id patch now).run Cluster.respond before) := by
  unfold Lifecycle.update
  rcases before.rejectsUpdate_or kind id patch with rejects | ⟨object, patched, unarmed, found, applies⟩
  · obtain ⟨cause, answered⟩ := before.answer_update_of_rejects kind id rejects
    obtain ⟨time, calls, run⟩ :=
      run_call_bind_of_error (fun _ => Lifecycle.read kind id) answered now
    rw [run]
    exact ⟨rfl, rfl, fun _ => ⟨⟨cause, time, rfl⟩, rfl⟩, fun applies => absurd rejects applies⟩
  · have accepts : ¬ before.RejectsUpdate kind id patch := by
      rintro (⟨message, arranged⟩ | none | ⟨other, there, fails⟩)
      · cases unarmed.symm.trans arranged
      · cases found.symm.trans none
      · cases found.symm.trans there
        cases applies.symm.trans fails
    have answered := before.answer_update kind id unarmed found applies
    obtain ⟨later, run⟩ :=
      run_call_bind_of_ok (fun _ => Lifecycle.read kind id) answered now
    obtain ⟨result, time, ended, _⟩ := endsWith_read kind id Cluster Cluster.respond _ later
    obtain ⟨stored, writes⟩ := Cluster.holdsSame_of_onlyAsks _ (onlyAsks_read kind id later)
      fun call get => ⟨kind, id, get⟩
    rw [run]
    exact ⟨Option.isSome_of_eq_some ended, writes, fun rejects => absurd rejects accepts,
      fun _ => ⟨object, patched, found, applies, stored⟩⟩

/-! ### Deletion -/

/-- How a deletion goes on when it is accepted. -/
def afterDelete (config : Config) (kind : Kind) (id : ResourceId) (_ : Unit) : Operation Unit :=
  if config.wait then awaitGone config kind id config.timeouts.delete else return ()

/-- After an accepted deletion only the wait can fail, and only gets are made. -/
theorem afterDelete_ends (positive : 0 < config.pause.nanos) (kind : Kind) (id : ResourceId) :
    (afterDelete config kind id ()).EndsWith (fun result => ∀ e, result = .error e → e.IsWait) ∧
      (afterDelete config kind id ()).OnlyAsks (Task.ReadsGone kind id) := by
  unfold afterDelete
  split
  · constructor
    · refine (endsWith_awaitGone positive kind id _).mono fun result named e failed => ?_
      obtain ⟨kind, cause, rfl⟩ := named e failed
      exact trivial
    · exact onlyAsks_awaitGone config kind id _
  · constructor
    · refine Operation.endsWith_succeed ?_
      rintro e ⟨⟩
    · exact Operation.onlyAsks_succeed ()

/-- What a deletion leaves behind in the cluster is what its write has taken out, whether the wait after it
succeeds or not. -/
theorem leftByDelete (positive : 0 < config.pause.nanos) (kind : Kind) (id : ResourceId)
    (before : Cluster) (now : Nat) :
    LeftByDelete kind id before
      ((Lifecycle.delete config kind id now).run Cluster.respond before) := by
  have written : Lifecycle.delete config kind id =
      Operation.call (.delete kind id) >>= afterDelete config kind id := rfl
  rw [written]
  rcases before.answer_delete kind id with ⟨cause, answered⟩ | ⟨object, there, answered⟩
  · obtain ⟨time, calls, run⟩ :=
      run_call_bind_of_error (afterDelete config kind id) answered now
    rw [run]
    refine ⟨rfl, rfl, fun _ _ _ => rfl, ?_⟩
    rintro _ _ ⟨⟩ other
    exact absurd rfl (other cause)
  · obtain ⟨later, run⟩ := run_call_bind_of_ok (afterDelete config kind id) answered now
    obtain ⟨ending, gets⟩ := afterDelete_ends positive kind id
    obtain ⟨result, time, ended, waited⟩ := ending Cluster Cluster.respond _ later
    obtain ⟨stored, writes⟩ := Cluster.holdsSame_of_onlyAsks _ (gets later) (by
      rintro call (get | ⟨_, get⟩)
      · exact ⟨kind, id, get⟩
      · exact ⟨_, id, get⟩)
    have failure : ∀ {e time'}, some (result, time) = some (.error e, time') → e.IsWait := by
      rintro e time' ⟨⟩
      exact waited e rfl
    rw [run]
    refine ⟨Option.isSome_of_eq_some ended, writes, fun cause time' failed => ?_,
      fun e time' failed _ => ?_⟩
    · rw [Plan.Run.result_after, ended] at failed
      exact (failure failed).elim
    · rw [Plan.Run.result_after, ended] at failed
      refine ⟨failure failed, ?_, stored⟩
      rw [Cluster.holds, there]
      rfl

/-- Whatever a cluster holds and is scripted or armed for, operations that write leave it as told by what
became of the write: a rejected one changes no object, an accepted one stays in force when the wait or
the reading back fails, and both are counted. -/
theorem failed_write_leaves (config : Config) (positive : 0 < config.pause.nanos) (before : Cluster)
    (now : Nat) (kind : Kind) :
    (∀ object : Resource kind, LeftByCreate config object before
        ((Lifecycle.create config object now).run Cluster.respond before)) ∧
      (∀ id patch, LeftByUpdate kind id patch before
        ((Lifecycle.update kind id patch now).run Cluster.respond before)) ∧
      ∀ id, LeftByDelete kind id before
        ((Lifecycle.delete config kind id now).run Cluster.respond before) := by
  refine ⟨fun object => ?_, fun id patch => ?_, fun id => ?_⟩
  · exact leftByCreate positive object before now
  · exact leftByUpdate kind id patch before now
  · exact leftByDelete positive kind id before now

/-- A machine that does not become ready in time is still there, in the namespace of the configuration. -/
theorem failed_write_leaves_of_timeout :
    let config : Config :=
      { Config.standard with
        pause := .ofMillis 2
        timeouts := { Timeouts.standard with virtualMachineCreate := .ofMillis 3 } }
    let id : ResourceId := ⟨"default", "vm"⟩
    let object : Resource .virtualMachine := ⟨{ name := some "vm" }, {}, none⟩
    let run := (Lifecycle.create config object 0).run Cluster.respond .empty
    0 < config.pause.nanos ∧
      run.result = some (.error (.wait .virtualMachine id .creation
        (.timeout (.ofMillis 3) ["Succeeded"] (some "Creating"))), 3000000) ∧
      run.final.stored =
        setAt Cluster.empty.stored .virtualMachine id (some (object.inSpace "default")) := by
  intro config id object run
  have positive : 0 < config.pause.nanos := by decide
  have timedOut : run.result = some (.error (.wait .virtualMachine id .creation
      (.timeout (.ofMillis 3) ["Succeeded"] (some "Creating"))), 3000000) := by
    subst run object id config
    rfl
  obtain ⟨id', prepares, _, stored⟩ :=
    ((failed_write_leaves config positive .empty 0 .virtualMachine).1 object).kept _ _ timedOut trivial
  cases prepares
  exact ⟨positive, timedOut, stored⟩

end Lifecycle

end VirtLifecycle
