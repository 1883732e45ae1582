/-
Module: VirtLifecycle.Wait.Backoff
Purpose: The pauses between two looks at a resource. They are all the same, or grow like the
  Fibonacci numbers: each is the sum of the two before it, but never more than a bound.
Specification: [SPEC 4.1 Condition Poller], poll interval schedule (`condition-waiter`): `PollInterval`
  is `Pacing`, with `Fixed` for `every`; `IntervalSchedule` is `Schedule`; `FibonacciBackoff` is
  `Backoff`, with `min`, `prev`, `current` and `max` for its fields, `next_backoff` for `next` and
  `reset` for `restart`.
Main exports: Pacing, Backoff, Backoff.next, Backoff.restart, Schedule
-/
import VirtLifecycle.Time.Duration

namespace VirtLifecycle

/-- Pauses that grow from `least` up to `most` (`FibonacciBackoff`). -/
structure Backoff where
  least : Duration
  previous : Duration
  current : Duration
  most : Duration
deriving DecidableEq, Repr, Inhabited

namespace Backoff

/-- The first two pauses are `least`, unless that is above `most`. -/
def start (least most : Duration) : Backoff :=
  ⟨least, Duration.zero, least.least most, most⟩

/-- The pause that is due, and the state after it (`next_backoff`). -/
def next (b : Backoff) : Duration × Backoff :=
  (b.current, { b with
    previous := b.current
    current := (b.previous.add b.current).least b.most })

/-- Begins again with the first pause (`reset`). -/
def restart (b : Backoff) : Backoff :=
  start b.least b.most

end Backoff

/-- How a wait paces its looks (`PollInterval`). -/
inductive Pacing where
  | every (pause : Duration)
  | fibonacci (least most : Duration)
deriving DecidableEq, Repr

namespace Pacing

/-- Two seconds between two looks. -/
def standard : Pacing := every (Duration.ofSeconds 2)

instance : Inhabited Pacing := ⟨standard⟩

/-- The shortest pause that the pacing can ask for. -/
def leastPause : Pacing → Duration
  | every pause => pause
  | fibonacci least most => least.least most

end Pacing

/-- The state of a pacing within one wait (`IntervalSchedule`). -/
inductive Schedule where
  | every (pause : Duration)
  | growing (backoff : Backoff)
deriving DecidableEq, Repr, Inhabited

namespace Schedule

def ofPacing : Pacing → Schedule
  | .every pause => every pause
  | .fibonacci least most => growing (Backoff.start least most)

/-- The pause that is due, and the state after it. -/
def next : Schedule → Duration × Schedule
  | every pause => (pause, every pause)
  | growing backoff => (backoff.next.1, growing backoff.next.2)

/-- Lets growing pauses begin again. -/
def restart : Schedule → Schedule
  | every pause => every pause
  | growing backoff => growing backoff.restart

end Schedule

end VirtLifecycle
