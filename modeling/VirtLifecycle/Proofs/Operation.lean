/-
Module: VirtLifecycle.Proofs.Operation
Purpose: Runs of operations, and the calls they can make. An operation that goes on after another one
  does so with that one's result and from where it has left whoever answers the calls; after a failure
  it makes no more calls. A wait makes no call but that of its probe.
Main exports: Operation.resume, Operation.run_bind, Operation.run_bind_succeed, Operation.run_await,
  Operation.run_call_bind, Operation.OnlyAsks
-/
import VirtLifecycle.Operation
import VirtLifecycle.Proofs.Plan.Asks

namespace VirtLifecycle

/-- Any number of looks makes no call but that of the probe. -/
theorem WaitConfig.onlyAsks_loop {Call : Type} {Reply : Call → Type} {ε α : Type} (c : WaitConfig)
    (probe : Probe Call Reply ε α) (deadline turns : Nat) (p : Progress) :
    (c.loop probe deadline turns p).OnlyAsks (· = probe.call) := by
  induction turns generalizing p with
  | zero =>
    unfold loop
    split
    · exact .done _
    · exact .endless
  | succ turns ih =>
    unfold loop
    split
    · exact .done _
    · refine .ask rfl fun reply takes => ?_
      cases c.turn deadline p (probe.read reply) takes with
      | stop result time => exact .done _
      | goOn q => exact ih (pause deadline q)

/-- A wait asks its probe, and nothing else. -/
theorem WaitConfig.onlyAsks_wait {Call : Type} {Reply : Call → Type} {ε α : Type} (c : WaitConfig)
    (probe : Probe Call Reply ε α) (start : Nat) :
    (c.wait probe start).OnlyAsks (· = probe.call) :=
  c.onlyAsks_loop probe (c.deadline start) (c.enoughTurns start) (c.opening start)

namespace Operation

variable {α β σ : Type}

/-- How an operation goes on after what came before it. -/
def resume (next : α → Operation β) :
    Except LifecycleError α × Nat → ClusterPlan (Except LifecycleError β × Nat)
  | (.ok a, now) => next a now
  | (.error e, now) => .done (.error e, now)

/-- One operation after another goes on from the time at which the first one ends. -/
theorem bind_apply (first : Operation α) (next : α → Operation β) (now : Nat) :
    (first >>= next) now = (first now).bind (resume next) := by
  apply congrArg (first now).bind
  funext ⟨result, now⟩
  cases result with
  | ok a => rfl
  | error e => rfl

variable (respond : Plan.Responder Call Call.Reply σ) (state : σ) (now : Nat)

/-- To carry out one operation after another is to carry out the first, and then the second with its result
on what the first has left. -/
theorem run_bind (first : Operation α) (next : α → Operation β) :
    ((first >>= next) now).run respond state =
      ((first now).run respond state).andThen fun result state =>
        (resume next result).run respond state := by
  rw [bind_apply, Plan.run_bind]

/-- An operation whose result is changed. -/
theorem run_bind_succeed (first : Operation α) (f : α → β) :
    ((first >>= fun a => succeed (f a)) now).run respond state =
      ⟨((first now).run respond state).result.map fun (result, now) => (result.map f, now),
        ((first now).run respond state).calls, ((first now).run respond state).final⟩ := by
  have mapped : resume (fun a => succeed (f a)) = fun (result, now) => .done (result.map f, now) := by
    funext ⟨result, now⟩
    cases result with
    | ok a => rfl
    | error e => rfl
  rw [bind_apply, mapped]
  exact Plan.run_map ..

/-- To carry out a wait as an operation is to carry out the wait, with its failure put into words. -/
theorem run_await (config : WaitConfig) (probe : Probe Call Call.Reply ClientError α)
    (describe : WaitError ClientError → LifecycleError) :
    (await config probe describe now).run respond state =
      ⟨((config.wait probe now).run respond state).result.map fun (result, now) =>
          (result.mapError describe, now),
        ((config.wait probe now).run respond state).calls,
        ((config.wait probe now).run respond state).final⟩ := by
  rw [await, Plan.run_map]

/-- After a call an operation goes on with the answer, or fails. -/
theorem run_call_bind (c : Call) (next : c.Answer → Operation β) :
    ((call c >>= next) now).run respond state =
      ((resume next ((respond state now c).1.1.mapError .client,
          Clock.sleepUntil now (now + (respond state now c).1.2.nanos))).run respond
        (respond state now c).2).after (now, c) := by
  rw [bind_apply, call, Plan.bind_ask, Plan.run_ask]
  rfl

/-! ### Calls -/

/-- All calls that an operation can come to make are allowed. -/
def OnlyAsks (P : Call → Prop) (operation : Operation α) : Prop :=
  ∀ now, (operation now).OnlyAsks P

variable {P Q : Call → Prop}

theorem onlyAsks_succeed (result : α) : OnlyAsks P (succeed result) := fun _ => .done _

theorem onlyAsks_fail (error : LifecycleError) : OnlyAsks P (fail error : Operation α) := fun _ =>
  .done _

theorem onlyAsks_call {c : Call} (allowed : P c) : OnlyAsks P (call c) := fun _ =>
  .ask allowed fun _ _ => .done _

theorem onlyAsks_now : OnlyAsks P Operation.now := fun _ => .done _

theorem OnlyAsks.resume {next : α → Operation β} (later : ∀ a, OnlyAsks P (next a))
    (result : Except LifecycleError α × Nat) : (Operation.resume next result).OnlyAsks P := by
  obtain ⟨result, now⟩ := result
  cases result with
  | error e => exact .done _
  | ok a => exact later a now

theorem OnlyAsks.bind {first : Operation α} {next : α → Operation β} (h : OnlyAsks P first)
    (later : ∀ a, OnlyAsks P (next a)) : OnlyAsks P (first >>= next) := by
  intro now
  rw [bind_apply]
  exact (h now).bind (OnlyAsks.resume later)

theorem OnlyAsks.mono {operation : Operation α} (h : OnlyAsks P operation)
    (wider : ∀ call, P call → Q call) : OnlyAsks Q operation := fun now => (h now).mono wider

/-- A wait asks its probe, and nothing else. -/
theorem onlyAsks_await (config : WaitConfig) (probe : Probe Call Call.Reply ClientError α)
    (describe : WaitError ClientError → LifecycleError) :
    OnlyAsks (· = probe.call) (await config probe describe) := fun now =>
  (config.onlyAsks_wait probe now).map _

/-- What is called is called once and first; all calls after it are allowed, and there are none unless
the answer is a success. -/
theorem calls_call_bind (c : Call) {next : c.Answer → Operation β}
    (later : ∀ answer, OnlyAsks P (next answer)) :
    ∃ others, (((call c >>= next) now).run respond state).calls.map Prod.snd = c :: others ∧
      (∀ other ∈ others, P other) ∧ (others ≠ [] → (respond state now c).1.1.isOk) := by
  rw [run_call_bind, Plan.Run.calls_after, List.map_cons]
  refine ⟨_, rfl, ?_, ?_⟩
  · intro other made
    obtain ⟨timed, called, rfl⟩ := List.mem_map.mp made
    exact (OnlyAsks.resume later _).calls respond _ timed called
  · intro some
    cases answer : (respond state now c).1.1 with
    | ok reply => rfl
    | error cause =>
      rw [answer] at some
      exact absurd rfl some

end Operation

end VirtLifecycle
