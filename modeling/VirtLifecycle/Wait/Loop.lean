/-
Module: VirtLifecycle.Wait.Loop
Purpose: Waiting for a state. After the delay the resource is looked at, then again after each pause,
  until a look decides or the deadline comes. No look starts at or after the deadline, and one that
  is still running then is cut off. No pause goes beyond the deadline.
Specification: [SPEC 4.1 Condition Poller], algorithm and state machine: `wait_for_condition` and
  `StateWaiter.wait` are `wait`, its match on the result of a probe is `judge`, `timeout_at` is in
  `turn`, `capped` in `pause` and `firstLook`, and `timed_out` is `timedOut`; `WaitState` is
  `WaitStage`. To look is to call the probe.
Main exports: WaitConfig.wait, WaitConfig.waitWithin, WaitConfig.judge, WaitConfig.turn,
  WaitConfig.loop, Probe, Progress, WaitStage
-/
import VirtLifecycle.Plan
import VirtLifecycle.Wait.Config
import VirtLifecycle.Wait.Error

namespace VirtLifecycle

/-- How a wait looks at its resource: the call it makes, and what the reply shows. It is asked again and
again, and is the same each time. -/
structure Probe (Call : Type) (Reply : Call → Type) (ε α : Type) where
  call : Call
  read : Reply call → Except ε (Sighting α)

/-- How far a wait has come: the variables that its loop carries (`intervals`, `last_state`, `not_found`). -/
structure Progress where
  now : Nat
  schedule : Schedule
  /-- the state last seen -/
  lastState : Option String
  /-- in how many looks the resource was missing since it was last seen; after the last number that
  32 bits show, the count begins again at zero -/
  missing : UInt32
deriving DecidableEq, Repr, Inhabited

/-- What follows from a look: the wait is over at the given time, or goes on. -/
inductive Verdict (ε α : Type) where
  | stop (result : Except (WaitError ε) (Resolution α)) (time : Nat)
  | goOn (progress : Progress)

namespace WaitConfig

variable {Call : Type} {Reply : Call → Type} {ε α : Type}

/-- What follows from a look that is over now. A state that differs from the one seen before lets
growing pauses begin again. -/
def judge (c : WaitConfig) (p : Progress) : Except ε (Sighting α) → Verdict ε α
  | .error cause => .stop (.error (.probe cause)) p.now
  | .ok .missing =>
    let missing := p.missing + 1
    if c.target.isEmpty then .stop (.ok .absent) p.now
    else if c.missingLimit.any (· < missing) then .stop (.error (.missing missing)) p.now
    else .goOn { p with missing := missing }
  | .ok (.found state value) =>
    if state ∈ c.target then .stop (.ok (.reached value)) p.now
    else if state ∉ c.pending then
      .stop (.error (.unexpected state c.pending c.target)) p.now
    else
      .goOn { p with
        missing := 0
        schedule := if p.lastState = some state then p.schedule else p.schedule.restart
        lastState := some state }

/-- The failure of a wait that runs out of time (`timed_out`). -/
def timedOut (c : WaitConfig) (lastState : Option String) : WaitError ε :=
  .timeout c.timeout c.target lastState

/-- What follows from a look that begins now and takes the given time. If it is still running when the
deadline's timer fires, it is cut off. -/
def turn (c : WaitConfig) (deadline : Nat) (p : Progress) (shown : Except ε (Sighting α))
    (takes : Duration) : Verdict ε α :=
  let finish := Clock.sleepUntil p.now (p.now + takes.nanos)
  let cutOff := Clock.ceilMilli deadline
  if cutOff < finish then .stop (.error (c.timedOut p.lastState)) cutOff
  else c.judge { p with now := finish } shown

/-- Sleeps for the pause that is due, but not beyond the deadline (`capped`). -/
def pause (deadline : Nat) (p : Progress) : Progress :=
  { p with
    now := Clock.sleepUntil p.now (min (p.now + p.schedule.next.1.nanos) deadline)
    schedule := p.schedule.next.2 }

/-- Looks until a look decides or the deadline comes, at most `turns` times. The result comes with
the time. -/
def loop (c : WaitConfig) (probe : Probe Call Reply ε α) (deadline : Nat) :
    (turns : Nat) → Progress → Plan Call Reply (Except (WaitError ε) (Resolution α) × Nat)
  | turns, p =>
    if deadline ≤ p.now then .done (.error (c.timedOut p.lastState), p.now)
    else
      match turns with
      | 0 => .endless
      | turns + 1 =>
        .ask p.now probe.call fun reply takes =>
          match c.turn deadline p (probe.read reply) takes with
          | .stop result time => .done (result, time)
          | .goOn p => loop c probe deadline turns (pause deadline p)

/-- So many looks are enough: with pauses above zero each turn ends in a later millisecond. Without
pauses a wait may go on for ever, and is given up as endless after a great many looks. -/
def enoughTurns (c : WaitConfig) (start : Nat) : Nat :=
  if c.pacing.leastPause.isZero then 0x100000000
  else c.budgetNanos start / Duration.milliNanos + 2

/-- When the first look is due. -/
def firstLook (c : WaitConfig) (start : Nat) : Nat :=
  Clock.sleepUntil start (min (start + c.delay.nanos) (c.deadline start))

/-- How far a wait is when its first look is due. -/
def opening (c : WaitConfig) (start : Nat) : Progress :=
  ⟨c.firstLook start, Schedule.ofPacing c.pacing, none, 0⟩

/-- Waits from the given time on, for at most so many looks. -/
def waitWithin (c : WaitConfig) (turns : Nat) (probe : Probe Call Reply ε α) (start : Nat) :
    Plan Call Reply (Except (WaitError ε) (Resolution α) × Nat) :=
  c.loop probe (c.deadline start) turns (c.opening start)

/-- Waits from the given time on. The result comes with the time at which the wait ends. -/
def wait (c : WaitConfig) (probe : Probe Call Reply ε α) (start : Nat) :
    Plan Call Reply (Except (WaitError ε) (Resolution α) × Nat) :=
  c.waitWithin (c.enoughTurns start) probe start

end WaitConfig

/-- How far along a wait is (`WaitState`). -/
inductive WaitStage where
  /-- the delay is not over -/
  | notStarted
  | probing
  | succeeded
  | failed
deriving DecidableEq, Repr, Inhabited

namespace WaitStage

def text : WaitStage → String
  | notStarted => "NotStarted"
  | probing => "Probing"
  | succeeded => "Succeeded"
  | failed => "Failed"

/-- The stage of a wait by the number of looks so far and what is left of it. -/
def ofPlan {Call : Type} {Reply : Call → Type} {ε α : Type} (looks : Nat) :
    Plan Call Reply (Except (WaitError ε) (Resolution α) × Nat) → WaitStage
  | .done (.ok _, _) => succeeded
  | .done (.error _, _) => failed
  | .ask _ _ _ | .endless => if looks = 0 then notStarted else probing

end WaitStage

end VirtLifecycle
