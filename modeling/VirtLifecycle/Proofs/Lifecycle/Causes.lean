/-
Module: VirtLifecycle.Proofs.Lifecycle.Causes
Purpose: Where the failures of an operation come from. What a wait says of a look that failed is what the
  look was answered, and what an operation says of the client is what the client has answered to one of
  its calls.
Main exports: LifecycleError.clientCause?, Operation.OnlyEnds, Operation.onlyEnds_await,
  Lifecycle.onlyEnds_awaitCreated, Lifecycle.onlyEnds_afterCreate
-/
import VirtLifecycle.Proofs.Lifecycle.Failure
import VirtLifecycle.Proofs.Plan.Ends

namespace VirtLifecycle

/-- What the client has failed with, to a call of the operation or to a look of its wait. -/
def LifecycleError.clientCause? : LifecycleError → Option ClientError
  | client cause => some cause
  | wait _ _ _ (.probe cause) => some cause
  | _ => none

namespace WaitConfig

variable {Call : Type} {Reply : Call → Type} {ε α : Type} {c : WaitConfig}
  {R : (call : Call) → Reply call → Prop} {Q : ε → Prop}

/-- A look that is said to have failed did so. -/
theorem turn_stop_probe {deadline time : Nat} {p : Progress} {shown : Except ε (Sighting α)}
    {takes : Duration} {cause : ε}
    (stopped : c.turn deadline p shown takes = .stop (.error (.probe cause)) time) :
    shown = .error cause := by
  unfold turn at stopped
  dsimp only at stopped
  split at stopped
  · cases stopped
  · unfold judge at stopped
    split at stopped
    · cases stopped
      rfl
    · dsimp only at stopped
      repeat' split at stopped
      all_goals cases stopped
    · repeat' split at stopped
      all_goals cases stopped

/-- After any number of looks, a failure of one is what that look was answered. -/
theorem onlyEnds_loop {probe : Probe Call Reply ε α}
    (causes : ∀ reply cause, R probe.call reply → probe.read reply = .error cause → Q cause)
    (deadline turns : Nat) (p : Progress) :
    (c.loop probe deadline turns p).OnlyEnds R fun ended =>
      ∀ cause, ended.1 = .error (.probe cause) → Q cause := by
  induction turns generalizing p with
  | zero =>
    unfold loop
    split
    · refine .done ?_
      rintro cause ⟨⟩
    · exact .endless
  | succ turns ih =>
    unfold loop
    split
    · refine .done ?_
      rintro cause ⟨⟩
    · refine .ask fun reply takes replied => ?_
      cases verdict : c.turn deadline p (probe.read reply) takes with
      | stop result time =>
        refine .done ?_
        rintro cause rfl
        exact causes reply cause replied (turn_stop_probe verdict)
      | goOn q => exact ih (pause deadline q)

end WaitConfig

namespace Operation

variable {α β : Type} {R : (call : Call) → call.Reply → Prop}
  {P P' : Except LifecycleError α → Prop} {Q : Except LifecycleError β → Prop}

/-- By the given replies, the operation comes to no other results. -/
def OnlyEnds (R : (call : Call) → call.Reply → Prop) (P : Except LifecycleError α → Prop)
    (operation : Operation α) : Prop :=
  ∀ now, (operation now).OnlyEnds R fun ended => P ended.1

theorem onlyEnds_succeed {result : α} (allowed : P (.ok result)) : OnlyEnds R P (succeed result) :=
  fun _ => .done allowed

theorem onlyEnds_fail {error : LifecycleError} (allowed : P (.error error)) :
    OnlyEnds R P (fail error : Operation α) :=
  fun _ => .done allowed

/-- A call ends with what its reply says, as an error of the client if the reply is a failure. -/
theorem onlyEnds_call (c : Call) :
    OnlyEnds R (fun result => ∃ reply, R c reply ∧ result = reply.mapError .client) (call c) :=
  fun _ => .ask fun reply _ replied => .done ⟨reply, replied, rfl⟩

theorem OnlyEnds.mono {operation : Operation α} (h : OnlyEnds R P operation)
    (wider : ∀ result, P result → P' result) : OnlyEnds R P' operation := fun now =>
  (h now).mono fun ended => wider ended.1

/-- What the first operation fails with the whole fails with; otherwise the second decides. -/
theorem OnlyEnds.bind {first : Operation α} {next : α → Operation β} (h : OnlyEnds R P first)
    (failed : ∀ e, P (.error e) → Q (.error e)) (later : ∀ a, P (.ok a) → OnlyEnds R Q (next a)) :
    OnlyEnds R Q (first >>= next) := by
  intro now
  rw [bind_apply]
  refine (h now).bind ?_
  rintro ⟨result, time⟩ allowed
  cases result with
  | error e => exact .done (failed e allowed)
  | ok a => exact later a allowed time

/-- A wait tells of a failed look what that look was answered. -/
theorem onlyEnds_await (config : WaitConfig) {probe : Probe Call Call.Reply ClientError α}
    {describe : WaitError ClientError → LifecycleError} {Q : ClientError → Prop}
    (causes : ∀ reply cause, R probe.call reply → probe.read reply = .error cause → Q cause) :
    OnlyEnds R (fun result => ∀ e, result = .error e →
      ∃ failure, e = describe failure ∧ ∀ cause, failure = .probe cause → Q cause)
      (await config probe describe) := by
  intro now
  refine (WaitConfig.onlyEnds_loop causes _ _ _).map ?_
  rintro ⟨result, time⟩ told e failed
  cases result with
  | ok resolution => cases failed
  | error failure =>
    cases failed
    refine ⟨failure, rfl, ?_⟩
    rintro cause rfl
    exact told cause rfl

end Operation

namespace Lifecycle

variable {config : Config} {kind : Kind} {id : ResourceId} {R : (call : Call) → call.Reply → Prop}
  {Q : ClientError → Prop}

/-- What the client fails with in a wait for a new object, it has answered to a get. -/
theorem onlyEnds_awaitCreated
    (causes : ∀ cause, R (.get kind id) (.error cause) → Q cause) (timeout : Duration) :
    Operation.OnlyEnds R (fun result => ∀ e, result = .error e → ∀ cause,
      e.clientCause? = some cause → Q cause) (awaitCreated config kind id timeout) := by
  unfold awaitCreated
  refine (Operation.onlyEnds_await (Q := Q) _ fun reply cause replied failed => ?_).bind ?_ ?_
  · cases reply with
    | error answered =>
      cases failed
      exact causes cause replied
    | ok found => cases failed
  · rintro e told e' ⟨⟩ cause caused
    obtain ⟨failure, rfl, looked⟩ := told e rfl
    cases failure with
    | probe answered =>
      cases caused
      exact looked cause rfl
    | timeout | unexpected | missing => cases caused
  · intro resolution _
    cases resolution with
    | reached object =>
      refine Operation.onlyEnds_succeed ?_
      rintro e ⟨⟩
    | absent =>
      refine Operation.onlyEnds_fail ?_
      rintro e ⟨⟩ cause ⟨⟩

/-- After the submission the client fails only with what it answers to a get, and the id that is answered is
that of the object. -/
theorem onlyEnds_afterCreate (causes : ∀ cause, R (.get kind id) (.error cause) → Q cause)
    (submitted : Resource kind) :
    Operation.OnlyEnds R (fun result =>
        (∀ e, result = .error e → ∀ cause, e.clientCause? = some cause → Q cause) ∧
          ∀ id' created, result = .ok (id', created) → id' = id)
      (afterCreate config id submitted) := by
  unfold afterCreate
  split
  · refine (onlyEnds_awaitCreated causes _).bind ?_ ?_
    · intro e told
      refine ⟨?_, fun id' created ended => (nomatch ended)⟩
      rintro e' ⟨⟩
      exact told e rfl
    · intro settled _
      refine Operation.onlyEnds_succeed ⟨fun e ended => (nomatch ended), ?_⟩
      rintro id' created ⟨⟩
      rfl
  · refine Operation.onlyEnds_succeed ⟨fun e ended => (nomatch ended), ?_⟩
    rintro id' created ⟨⟩
    rfl

end Lifecycle

end VirtLifecycle
