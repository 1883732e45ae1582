/-
Module: VirtLifecycle.Proofs.Lifecycle.Endings
Purpose: What operations on resources come to, whoever answers their calls. With pauses above zero each
  wait for a resource comes to an end: the object, or a failure that names what was waited for. No wait
  for a state takes an absence for its end.
Main exports: Operation.EndsWith, Operation.EndsWith.bind, Operation.endsWith_await,
  Lifecycle.endsWith_read, Lifecycle.endsWith_awaitCreated, Lifecycle.endsWith_awaitGone
-/
import VirtLifecycle.Lifecycle
import VirtLifecycle.Proofs.Operation
import VirtLifecycle.Proofs.Wait.Bound

namespace VirtLifecycle

/-- A wait for a state is not over because the resource is missing. -/
theorem WaitConfig.Decides.ne_absent {ε α : Type} {c : WaitConfig} {s : Script ε α}
    {start k time : Nat} {result : Except (WaitError ε) (Resolution α)}
    (decides : c.Decides s start k result time) (target : c.target ≠ []) :
    result ≠ .ok .absent := by
  rintro rfl
  cases decides with
  | absent counts shown empty => exact target empty

/-- A wait ends with what some look of a script decides. -/
theorem WaitConfig.exists_decides {Call ε α σ : Type} {Reply : Call → Type} {c : WaitConfig}
    {probe : Probe Call Reply ε α} {respond : Plan.Responder Call Reply σ} {state : σ}
    {start time : Nat} {result : Except (WaitError ε) (Resolution α)}
    (ended : ((c.wait probe start).run respond state).result = some (result, time)) :
    ∃ (s : Script ε α) (k : Nat), c.Decides s start k result time := by
  obtain ⟨s, follows, _⟩ := c.exists_script probe start respond state
  have whole := c.runWithin_comesTo (c.enoughTurns start) s start
  rw [follows] at ended
  obtain ⟨k, first⟩ := whole.firstDecision ended
  exact ⟨s, k, first.decides⟩

namespace Operation

variable {α β : Type} {P : Except LifecycleError α → Prop} {Q : Except LifecycleError β → Prop}

/-- Whoever answers its calls, the operation comes to a result, and to one of the given kind. -/
def EndsWith (operation : Operation α) (P : Except LifecycleError α → Prop) : Prop :=
  ∀ (σ : Type) (respond : Plan.Responder Call Call.Reply σ) (state : σ) (now : Nat),
    ∃ result time, ((operation now).run respond state).result = some (result, time) ∧ P result

theorem endsWith_succeed {a : α} (h : P (.ok a)) : (succeed a).EndsWith P := fun _ _ _ now =>
  ⟨.ok a, now, rfl, h⟩

theorem endsWith_fail {e : LifecycleError} (h : P (.error e)) : (fail e : Operation α).EndsWith P :=
  fun _ _ _ now => ⟨.error e, now, rfl, h⟩

theorem endsWith_call (c : Call) : (call c).EndsWith fun _ => True := fun _ respond state now =>
  ⟨(respond state now c).1.1.mapError .client, _, rfl, trivial⟩

theorem endsWith_now : Operation.now.EndsWith fun result => ∃ time, result = .ok time :=
  fun _ _ _ now => ⟨.ok now, now, rfl, now, rfl⟩

theorem EndsWith.mono {P' : Except LifecycleError α → Prop} {operation : Operation α}
    (h : operation.EndsWith P) (wider : ∀ result, P result → P' result) : operation.EndsWith P' := by
  intro σ respond state now
  obtain ⟨result, time, ended, ofKind⟩ := h σ respond state now
  exact ⟨result, time, ended, wider result ofKind⟩

/-- What the first operation fails with the whole fails with; otherwise the second decides. -/
theorem EndsWith.bind {first : Operation α} {next : α → Operation β} (h : first.EndsWith P)
    (failed : ∀ e, P (.error e) → Q (.error e)) (later : ∀ a, P (.ok a) → (next a).EndsWith Q) :
    (first >>= next).EndsWith Q := by
  intro σ respond state now
  obtain ⟨result, time, ended, ofKind⟩ := h σ respond state now
  rw [run_bind, Plan.Run.andThen_of_some ended]
  cases result with
  | error e => exact ⟨.error e, time, rfl, failed e ofKind⟩
  | ok a => exact later a ofKind σ respond _ time

/-- A wait with pauses above zero succeeds or tells of its failure; if it is for a state, it does not
succeed by an absence. -/
theorem endsWith_await {wait : WaitConfig} (positive : 0 < wait.pacing.leastPause.nanos)
    (probe : Probe Call Call.Reply ClientError α)
    (describe : WaitError ClientError → LifecycleError) :
    (await wait probe describe).EndsWith fun result =>
      (∃ cause, result = .error (describe cause)) ∨
        ∃ resolution, result = .ok resolution ∧ (wait.target ≠ [] → resolution ≠ .absent) := by
  intro σ respond state now
  have ends := (wait.wait_endsWithin positive probe respond state now).ends
  obtain ⟨⟨result, time⟩, ended⟩ := Option.isSome_iff_exists.mp ends
  obtain ⟨s, k, decides⟩ := WaitConfig.exists_decides ended
  rw [run_await, ended]
  refine ⟨result.mapError describe, time, rfl, ?_⟩
  cases result with
  | error cause => exact .inl ⟨cause, rfl⟩
  | ok resolution =>
    refine .inr ⟨resolution, rfl, fun target absent => ?_⟩
    exact decides.ne_absent target (congrArg _ absent)

end Operation

namespace Lifecycle

theorem endsWith_read (kind : Kind) (id : ResourceId) : (read kind id).EndsWith fun _ => True := by
  unfold read
  refine (Operation.endsWith_call _).bind (fun _ _ => trivial) fun found _ => ?_
  cases found with
  | none => exact Operation.endsWith_fail trivial
  | some object => exact Operation.endsWith_succeed trivial

variable {config : Config} (positive : 0 < config.pause.nanos) (kind : Kind) (id : ResourceId)
  (timeout : Duration)

include positive

/-- A wait for a new object fails only as such. -/
theorem endsWith_awaitCreated :
    (awaitCreated config kind id timeout).EndsWith fun result =>
      ∀ e, result = .error e → ∃ cause, e = .wait kind id .creation cause := by
  unfold awaitCreated
  have paced : 0 < (createdConfig config timeout).pacing.leastPause.nanos := positive
  refine (Operation.endsWith_await paced _ _).bind ?_ ?_
  · rintro e (⟨cause, equal⟩ | ⟨resolution, equal, _⟩)
    · cases equal
      rintro e ⟨⟩
      exact ⟨cause, rfl⟩
    · cases equal
  · rintro resolution (⟨cause, equal⟩ | ⟨resolution', equal, present⟩)
    · cases equal
    · cases equal
      have target : (createdConfig config timeout).target ≠ [] := List.cons_ne_nil _ _
      cases resolution with
      | reached object =>
        refine Operation.endsWith_succeed ?_
        rintro e ⟨⟩
      | absent => exact absurd rfl (present target)

/-- A wait for an object to be gone fails only as such. -/
theorem endsWith_awaitDeleted :
    (awaitDeleted config kind id timeout).EndsWith fun result =>
      ∀ e, result = .error e → ∃ cause, e = .wait kind id .deletion cause := by
  unfold awaitDeleted
  have paced : 0 < (deletedConfig config timeout).pacing.leastPause.nanos := positive
  refine (Operation.endsWith_await paced _ _).bind ?_ ?_
  · rintro e (⟨cause, equal⟩ | ⟨resolution, equal, _⟩)
    · cases equal
      rintro e ⟨⟩
      exact ⟨cause, rfl⟩
    · cases equal
  · intro resolution _
    refine Operation.endsWith_succeed ?_
    rintro e ⟨⟩

/-- Waiting until a deleted object is gone fails only for the object, or for its running counterpart. -/
theorem endsWith_awaitGone :
    (awaitGone config kind id timeout).EndsWith fun result =>
      ∀ e, result = .error e → ∃ kind cause, e = .wait kind id .deletion cause := by
  have own : ∀ kind budget, (awaitDeleted config kind id budget).EndsWith fun result =>
      ∀ e, result = .error e → ∃ kind cause, e = .wait kind id .deletion cause :=
    fun kind budget => (endsWith_awaitDeleted positive kind id budget).mono
      fun result named e failed => ⟨kind, named e failed⟩
  cases kind with
  | virtualMachine =>
    have counterpart := own .virtualMachineInstance timeout
    refine Operation.endsWith_now.bind (fun e equal => nomatch equal) fun started _ => ?_
    refine counterpart.bind (fun e named => ?_) fun _ _ => ?_
    · rintro e' ⟨⟩
      exact named e rfl
    · exact Operation.endsWith_now.bind (fun e equal => nomatch equal) fun reached _ => own _ _
  | virtualMachineInstance | replicaSet | dataVolume => exact own _ timeout

end Lifecycle

end VirtLifecycle
