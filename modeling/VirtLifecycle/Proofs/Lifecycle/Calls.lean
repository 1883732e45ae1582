/-
Module: VirtLifecycle.Proofs.Lifecycle.Calls
Purpose: Which calls the operations on resources make. A task is one operation with what it is given.
  The calls of a task are told without its plan: one write at most, which comes first, and then only
  reads of the object that the task is about.
Main exports: Lifecycle.Task, Lifecycle.Task.perform, Lifecycle.Task.CallsOf,
  Lifecycle.Task.perform_calls
-/
import VirtLifecycle.Lifecycle
import VirtLifecycle.Proofs.Operation

namespace VirtLifecycle.Lifecycle

/-- An operation on resources, with what it is given. -/
inductive Task where
  | create {kind : Kind} (object : Resource kind)
  | read (kind : Kind) (id : ResourceId)
  | update (kind : Kind) (id : ResourceId) (patch : Freeform)
  | delete (kind : Kind) (id : ResourceId)
  | existsNow (kind : Kind) (id : ResourceId)
  | awaitCreated (kind : Kind) (id : ResourceId) (timeout : Duration)
  | awaitDeleted (kind : Kind) (id : ResourceId) (timeout : Duration)
  | awaitRunning (id : ResourceId) (timeout : Duration)

namespace Task

/-- What a task comes to if it succeeds. -/
abbrev Result : Task → Type
  | @create kind _ => ResourceId × Resource kind
  | read kind _ | update kind _ _ | awaitCreated kind _ _ => Resource kind
  | delete _ _ | awaitDeleted _ _ _ => Unit
  | existsNow _ _ => Bool
  | awaitRunning _ _ => Resource .virtualMachineInstance

/-- The operation of a task. -/
def perform (config : Config) : (task : Task) → Operation task.Result
  | create object => Lifecycle.create config object
  | read kind id => Lifecycle.read kind id
  | update kind id patch => Lifecycle.update kind id patch
  | delete kind id => Lifecycle.delete config kind id
  | existsNow kind id => Lifecycle.existsNow kind id
  | awaitCreated kind id timeout => Lifecycle.awaitCreated config kind id timeout
  | awaitDeleted kind id timeout => Lifecycle.awaitDeleted config kind id timeout
  | awaitRunning id timeout => Lifecycle.awaitRunning config id timeout

/-- The reads of the wait for an object to be gone: of the object, and for a machine also of its running
counterpart of the same name. -/
def ReadsGone (kind : Kind) (id : ResourceId) (call : Call) : Prop :=
  call = .get kind id ∨
    (kind = .virtualMachine ∧ call = .get .virtualMachineInstance id)

/-- The calls that a task may make, in order, where `accepted` says which writes are answered with a
success. -/
inductive CallsOf (config : Config) (accepted : Call → Prop) : Task → List Call → Prop where
  | unprepared {kind : Kind} {object : Resource kind} {error : LifecycleError}
      (fails : prepare config object = .error error) : CallsOf config accepted (.create object) []
  | create {kind : Kind} {object prepared : Resource kind} {id : ResourceId} {reads : List Call}
      (prepares : prepare config object = .ok (id, prepared))
      (only : ∀ call ∈ reads, call = .get kind id)
      (follows : reads ≠ [] → config.wait = true ∧ accepted (.create prepared)) :
      CallsOf config accepted (.create object) (.create prepared :: reads)
  | read (kind : Kind) (id : ResourceId) :
      CallsOf config accepted (.read kind id) [.get kind id]
  | update {kind : Kind} {id : ResourceId} {patch : Freeform}
      (follows : accepted (.update kind id patch)) :
      CallsOf config accepted (.update kind id patch) [.update kind id patch, .get kind id]
  | refused {kind : Kind} {id : ResourceId} {patch : Freeform}
      (fails : ¬ accepted (.update kind id patch)) :
      CallsOf config accepted (.update kind id patch) [.update kind id patch]
  | delete {kind : Kind} {id : ResourceId} {reads : List Call}
      (only : ∀ call ∈ reads, ReadsGone kind id call)
      (follows : reads ≠ [] → config.wait = true ∧ accepted (.delete kind id)) :
      CallsOf config accepted (.delete kind id) (.delete kind id :: reads)
  | existsNow (kind : Kind) (id : ResourceId) :
      CallsOf config accepted (.existsNow kind id) [.get kind id]
  | awaitCreated {kind : Kind} {id : ResourceId} {timeout : Duration} {reads : List Call}
      (only : ∀ call ∈ reads, call = .get kind id) :
      CallsOf config accepted (.awaitCreated kind id timeout) reads
  | awaitDeleted {kind : Kind} {id : ResourceId} {timeout : Duration} {reads : List Call}
      (only : ∀ call ∈ reads, call = .get kind id) :
      CallsOf config accepted (.awaitDeleted kind id timeout) reads
  | awaitRunning {id : ResourceId} {timeout : Duration} {reads : List Call}
      (only : ∀ call ∈ reads, call = .get .virtualMachineInstance id) :
      CallsOf config accepted (.awaitRunning id timeout) reads

end Task

/-! ### Waits and reads only read -/

variable (config : Config) (kind : Kind) (id : ResourceId) (timeout : Duration)

theorem onlyAsks_reachedOr {α : Type} {P : Call → Prop} (error : LifecycleError)
    (resolution : Resolution α) : (reachedOr error resolution).OnlyAsks P := by
  cases resolution with
  | reached value => exact Operation.onlyAsks_succeed value
  | absent => exact Operation.onlyAsks_fail error

theorem onlyAsks_await_look {α : Type} (wait : WaitConfig) (view : Resource kind → String × α)
    (describe : WaitError ClientError → LifecycleError) :
    (Operation.await wait (look kind id view) describe).OnlyAsks (· = .get kind id) :=
  Operation.onlyAsks_await wait (look kind id view) describe

theorem onlyAsks_awaitCreated :
    (awaitCreated config kind id timeout).OnlyAsks (· = .get kind id) := by
  unfold awaitCreated
  apply Operation.OnlyAsks.bind
  · exact onlyAsks_await_look _ id _ _ _
  · exact onlyAsks_reachedOr _

theorem onlyAsks_awaitDeleted :
    (awaitDeleted config kind id timeout).OnlyAsks (· = .get kind id) := by
  unfold awaitDeleted
  apply Operation.OnlyAsks.bind
  · exact onlyAsks_await_look _ id _ _ _
  · exact fun _ => Operation.onlyAsks_succeed ()

theorem onlyAsks_awaitRunning :
    (awaitRunning config id timeout).OnlyAsks (· = .get .virtualMachineInstance id) := by
  unfold awaitRunning
  apply Operation.OnlyAsks.bind
  · exact onlyAsks_await_look _ id _ _ _
  · exact onlyAsks_reachedOr _

theorem onlyAsks_read : (read kind id).OnlyAsks (· = .get kind id) := by
  have asks : (Operation.call (.get kind id)).OnlyAsks (· = .get kind id) :=
    Operation.onlyAsks_call rfl
  unfold read
  refine asks.bind fun found => ?_
  cases found with
  | none => exact Operation.onlyAsks_fail _
  | some object => exact Operation.onlyAsks_succeed object

theorem onlyAsks_existsNow : (existsNow kind id).OnlyAsks (· = .get kind id) := by
  have asks : (Operation.call (.get kind id)).OnlyAsks (· = .get kind id) :=
    Operation.onlyAsks_call rfl
  unfold existsNow
  exact asks.bind fun found => Operation.onlyAsks_succeed found.isSome

/-- To wait for a deleted object to be gone is to get it; of a machine also the running counterpart of the
same name is got. -/
theorem onlyAsks_awaitGone : (awaitGone config kind id timeout).OnlyAsks (Task.ReadsGone kind id) := by
  have own : ∀ kind budget,
      (awaitDeleted config kind id budget).OnlyAsks (Task.ReadsGone kind id) := fun kind budget =>
    (onlyAsks_awaitDeleted config kind id budget).mono fun _ => .inl
  cases kind with
  | virtualMachine =>
    have counterpart : (awaitDeleted config .virtualMachineInstance id timeout).OnlyAsks
        (Task.ReadsGone .virtualMachine id) :=
      (onlyAsks_awaitDeleted config .virtualMachineInstance id timeout).mono
        fun _ read => .inr ⟨rfl, read⟩
    refine Operation.onlyAsks_now.bind fun started => counterpart.bind fun _ => ?_
    exact Operation.onlyAsks_now.bind fun reached => own _ _
  | virtualMachineInstance | replicaSet | dataVolume => exact own _ timeout

/-! ### Runs of tasks -/

variable {σ : Type} (respond : Plan.Responder Call Call.Reply σ) (state : σ) (now : Nat)

/-- The calls of a run of an operation, in order, without their times. -/
def callsOf {α : Type} (operation : Operation α) : List Call :=
  ((operation now).run respond state).calls.map Prod.snd

/-- The first call of an operation is answered with a success. -/
def Accepted (call : Call) : Prop := (respond state now call).1.1.isOk = true

/-- What is allowed in general and made in a run is allowed there. -/
theorem mem_callsOf {α : Type} {P : Call → Prop} {operation : Operation α}
    (only : operation.OnlyAsks P) : ∀ call ∈ callsOf respond state now operation, P call := by
  intro call made
  obtain ⟨timed, called, rfl⟩ := List.mem_map.mp made
  exact (only now).calls respond state timed called

/-- A single read. -/
theorem callsOf_get_bind {α : Type} {next : Option (Resource kind) → Operation α}
    (quiet : ∀ found, (next found).OnlyAsks fun _ => False) :
    callsOf respond state now (Operation.call (.get kind id) >>= next) = [.get kind id] := by
  obtain ⟨others, calls, none, _⟩ :=
    Operation.calls_call_bind respond state now (.get kind id) quiet
  rw [callsOf, calls, List.eq_nil_iff_forall_not_mem.mpr none]

theorem callsOf_read : callsOf respond state now (read kind id) = [.get kind id] := by
  unfold read
  apply callsOf_get_bind
  rintro (_ | object)
  · exact Operation.onlyAsks_fail _
  · exact Operation.onlyAsks_succeed object

theorem callsOf_existsNow : callsOf respond state now (existsNow kind id) = [.get kind id] := by
  unfold existsNow
  apply callsOf_get_bind
  intro found
  exact Operation.onlyAsks_succeed found.isSome

/-- A write that is waited for if the configuration says so. -/
theorem callsOf_write_bind {α : Type} {P : Call → Prop} (c : Call) {next : c.Answer → Operation α}
    (waits : config.wait = true → ∀ answer, (next answer).OnlyAsks P)
    (quiet : config.wait = false → ∀ answer, (next answer).OnlyAsks fun _ => False) :
    ∃ reads, callsOf respond state now (Operation.call c >>= next) = c :: reads ∧
      (∀ call ∈ reads, P call) ∧
      (reads ≠ [] → config.wait = true ∧ Accepted respond state now c) := by
  cases waiting : config.wait with
  | true =>
    obtain ⟨reads, calls, only, follows⟩ :=
      Operation.calls_call_bind respond state now c (waits waiting)
    exact ⟨reads, calls, only, fun some => ⟨rfl, follows some⟩⟩
  | false =>
    obtain ⟨reads, calls, none, _⟩ :=
      Operation.calls_call_bind respond state now c (quiet waiting)
    refine ⟨reads, calls, fun call made => (none call made).elim, fun some => ?_⟩
    exact absurd (List.eq_nil_iff_forall_not_mem.mpr none) some

namespace Task

/-- A creation makes its one write first and then, if that was accepted and it should wait, only gets the
object. -/
theorem create_calls {kind : Kind} (object : Resource kind) :
    CallsOf config (Accepted respond state now) (.create object)
      (callsOf respond state now (Lifecycle.create config object)) := by
  unfold Lifecycle.create
  cases prepares : prepare config object with
  | error e => exact .unprepared prepares
  | ok prepared =>
    obtain ⟨id, prepared⟩ := prepared
    let next (submitted : Resource kind) : Operation (ResourceId × Resource kind) :=
      if config.wait then do
        let settled ← Lifecycle.awaitCreated config kind id (config.timeouts.create kind)
        return (id, settled)
      else return (id, submitted)
    have waits : config.wait = true →
        ∀ submitted, (next submitted).OnlyAsks (· = .get kind id) := by
      intro waiting submitted
      simp only [next, if_pos waiting]
      apply Operation.OnlyAsks.bind
      · exact onlyAsks_awaitCreated config kind id _
      · exact fun settled => Operation.onlyAsks_succeed (id, settled)
    have quiet : config.wait = false →
        ∀ submitted, (next submitted).OnlyAsks fun _ => False := by
      intro notWaiting submitted
      simp only [next, notWaiting]
      exact Operation.onlyAsks_succeed (id, submitted)
    obtain ⟨reads, calls, only, follows⟩ :=
      callsOf_write_bind config respond state now (.create prepared) waits quiet
    have whole : CallsOf config (Accepted respond state now) (.create object)
        (.create prepared :: reads) := .create prepares only follows
    rw [← calls] at whole
    exact whole

theorem update_calls (patch : Freeform) :
    CallsOf config (Accepted respond state now) (.update kind id patch)
      (callsOf respond state now (Lifecycle.update kind id patch)) := by
  unfold Lifecycle.update
  rw [callsOf, Operation.run_call_bind, Plan.Run.calls_after, List.map_cons]
  cases answer : (respond state now (.update kind id patch)).1.1 with
  | error cause =>
    refine .refused ?_
    rw [Accepted, answer]
    exact Bool.false_ne_true
  | ok object =>
    have accepted : Accepted respond state now (.update kind id patch) := by
      rw [Accepted, answer]
      rfl
    have readBack := callsOf_read kind id respond (respond state now (.update kind id patch)).2
      (Clock.sleepUntil now (now + (respond state now (.update kind id patch)).1.2.nanos))
    have whole : CallsOf config (Accepted respond state now) (.update kind id patch) _ :=
      .update accepted
    rw [← readBack] at whole
    exact whole

/-- A deletion makes its one write first and then, if that was accepted and it should wait, only gets what
has to be gone. -/
theorem delete_calls :
    CallsOf config (Accepted respond state now) (.delete kind id)
      (callsOf respond state now (Lifecycle.delete config kind id)) := by
  let next (_ : Unit) : Operation Unit :=
    if config.wait then awaitGone config kind id config.timeouts.delete else return ()
  have waits : config.wait = true → ∀ answer, (next answer).OnlyAsks (ReadsGone kind id) := by
    intro waiting answer
    simp only [next, if_pos waiting]
    exact onlyAsks_awaitGone config kind id _
  have quiet : config.wait = false → ∀ answer, (next answer).OnlyAsks fun _ => False := by
    intro notWaiting answer
    simp only [next, notWaiting]
    exact Operation.onlyAsks_succeed ()
  have written : Lifecycle.delete config kind id = Operation.call (.delete kind id) >>= next := rfl
  obtain ⟨reads, calls, only, follows⟩ :=
    callsOf_write_bind config respond state now (.delete kind id) waits quiet
  rw [written, calls]
  exact .delete only follows

/-- Whoever answers, a task makes one write at most, and that first; then it only reads the object that
it is about, after a write only if that was accepted and, but for an update, is waited for. -/
theorem perform_calls (config : Config) (task : Task) {σ : Type}
    (respond : Plan.Responder Call Call.Reply σ) (state : σ) (now : Nat) :
    CallsOf config (Accepted respond state now) task
      (callsOf respond state now (task.perform config)) := by
  cases task with
  | create object => exact create_calls config respond state now object
  | read kind id =>
    rw [perform, callsOf_read]
    exact .read kind id
  | update kind id patch => exact update_calls config kind id respond state now patch
  | delete kind id => exact delete_calls config kind id respond state now
  | existsNow kind id =>
    rw [perform, callsOf_existsNow]
    exact .existsNow kind id
  | awaitCreated kind id timeout =>
    exact .awaitCreated (mem_callsOf respond state now (onlyAsks_awaitCreated config kind id timeout))
  | awaitDeleted kind id timeout =>
    exact .awaitDeleted (mem_callsOf respond state now (onlyAsks_awaitDeleted config kind id timeout))
  | awaitRunning id timeout =>
    exact .awaitRunning (mem_callsOf respond state now (onlyAsks_awaitRunning config id timeout))

end Task

end VirtLifecycle.Lifecycle
