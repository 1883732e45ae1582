/-
Module: VirtLifecycle.Wait.Config
Purpose: What to wait for, for how long, and what each look at the resource can show.
Specification: [SPEC 3 Data model], reconciliation request, and [SPEC 4.1 Condition Poller]:
  `WaitConfig`, `Probe` and `Resolved`. What is called a sighting here is a `Probe` there, and `missing`
  is `NotFound`.
Main exports: WaitConfig, Sighting, Resolution, WaitConfig.ofTimeout, WaitConfig.budgetNanos,
  WaitConfig.deadline
-/
import VirtLifecycle.Time.Clock
import VirtLifecycle.Wait.Backoff

namespace VirtLifecycle

/-- What one look at a resource shows (`Probe`). -/
inductive Sighting (α : Type) where
  /-- it is there, in the given state -/
  | found (state : String) (value : α)
  /-- it is not there, not yet or no more (`NotFound`) -/
  | missing
deriving DecidableEq, Repr

/-- How a wait succeeds (`Resolved`). -/
inductive Resolution (α : Type) where
  /-- a target state was seen on this value -/
  | reached (value : α)
  /-- the resource is gone, and no target state was asked for -/
  | absent
deriving DecidableEq, Repr

/-- What to wait for. States are compared as they are. Without target states, the wait is for the
resource to be gone. -/
structure WaitConfig where
  /-- states in which the wait goes on; another name for them is labels -/
  pending : List String
  /-- states in which it has succeeded -/
  target : List String
  /-- the whole budget -/
  timeout : Duration
  /-- how long to wait before the first look -/
  delay : Duration
  /-- the pauses between two looks (`poll_interval`) -/
  pacing : Pacing
  /-- in how many looks in a row the resource may be missing, if that is bounded (`not_found_checks`) -/
  missingLimit : Option UInt32
deriving DecidableEq, Repr, Inhabited

namespace WaitConfig

/-- A wait with a budget, no states, no delay, standard pacing and no bound on missing. -/
def ofTimeout (timeout : Duration) : WaitConfig where
  pending := []
  target := []
  timeout := timeout
  delay := .zero
  pacing := .standard
  missingLimit := none

/-- A year, the budget in place of one that is too large. -/
def yearNanos : Nat := 60 * 60 * 24 * 365 * Duration.secondNanos

/-- The budget that a wait from the given time on goes by: the configured one, unless the clock
cannot show when that is used up. -/
def budgetNanos (c : WaitConfig) (start : Nat) : Nat :=
  if Clock.CanShow (start + c.timeout.nanos) then c.timeout.nanos else yearNanos

/-- When a wait that starts at the given time is over. -/
def deadline (c : WaitConfig) (start : Nat) : Nat :=
  start + c.budgetNanos start

end WaitConfig

end VirtLifecycle
