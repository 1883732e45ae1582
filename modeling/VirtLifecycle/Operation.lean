/-
Module: VirtLifecycle.Operation
Purpose: Operations on a cluster: from the time at which they start they are plans of calls, which
  come to a result or an error together with the time at which they end.
Specification: [SPEC 4.2 Resource Reconciler]: what one method of a `Reconciler` does with its client
  and its clock.
Main exports: Operation, Operation.call, Operation.await, Operation.now
-/
import VirtLifecycle.Cluster.Call
import VirtLifecycle.Error
import VirtLifecycle.Wait.Loop

namespace VirtLifecycle

/-- A plan of calls to a cluster. -/
abbrev ClusterPlan := Plan Call Call.Reply

/-- An operation: a plan from a given time on, with its result and the time at which it ends. -/
def Operation (α : Type) : Type := Nat → ClusterPlan (Except LifecycleError α × Nat)

namespace Operation

variable {α β : Type}

/-- Is done at once. -/
def succeed (result : α) : Operation α := fun now => .done (.ok result, now)

/-- Fails at once. -/
def fail (error : LifecycleError) : Operation α := fun now => .done (.error error, now)

/-- Goes on with the result of the first operation, if it has one. -/
def andThen (first : Operation α) (next : α → Operation β) : Operation β := fun now =>
  (first now).bind fun (result, now) =>
    match result with
    | .ok a => next a now
    | .error e => .done (.error e, now)

instance : Monad Operation where
  pure := succeed
  bind := andThen

def ofExcept : Except LifecycleError α → Operation α
  | .ok result => succeed result
  | .error error => fail error

/-- The time. -/
def now : Operation Nat := fun now => .done (.ok now, now)

/-- Makes a call. -/
def call (c : Call) : Operation c.Answer := fun now =>
  .ask now c fun reply takes =>
    .done (reply.mapError .client, Clock.sleepUntil now (now + takes.nanos))

/-- Waits; `describe` puts the failure of the wait into words. -/
def await (config : WaitConfig) (probe : Probe Call Call.Reply ClientError α)
    (describe : WaitError ClientError → LifecycleError) : Operation (Resolution α) := fun now =>
  (config.wait probe now).map fun (result, now) => (result.mapError describe, now)

end Operation

end VirtLifecycle
