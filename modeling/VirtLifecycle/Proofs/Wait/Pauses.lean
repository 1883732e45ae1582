/-
Module: VirtLifecycle.Proofs.Wait.Pauses
Purpose: The pauses of a pacing in closed form. Growing pauses keep the last two values, each already
  cut off at the bound, and add with saturation; the result is the same as cutting off the exact
  multiple of the first pause that the Fibonacci numbers give.
Main exports: Pacing.pauseNanos, Schedule.afterPauses, Schedule.nanos_next_afterPauses,
  Schedule.restart_afterPauses, Pacing.leastPause_le_pauseNanos
-/
import Mathlib.Data.Nat.Fib.Basic
import VirtLifecycle.Wait.Backoff

namespace VirtLifecycle

/-- The length of the `n`-th pause since the pacing began, counted from one. -/
def Pacing.pauseNanos : Pacing → Nat → Nat
  | every pause, _ => pause.nanos
  | fibonacci least most, n => min (Nat.fib n * least.nanos) most.nanos

namespace Backoff

/-- The state of growing pauses of which `n` are over. -/
def after (least most : Duration) : Nat → Backoff
  | 0 => start least most
  | n + 1 => (after least most n).next.2

theorem bounds_after (least most : Duration) (n : Nat) :
    (after least most n).least = least ∧ (after least most n).most = most := by
  induction n with
  | zero => exact ⟨rfl, rfl⟩
  | succ n ih => exact ih

/-- The two values that growing pauses remember are capped Fibonacci multiples of the first pause.
Neither the cap nor the saturation of the sum loses anything, since the cap is a span itself. -/
theorem nanos_after (least most : Duration) (n : Nat) :
    (after least most n).previous.nanos = min (Nat.fib n * least.nanos) most.nanos ∧
      (after least most n).current.nanos = min (Nat.fib (n + 1) * least.nanos) most.nanos := by
  induction n with
  | zero =>
    constructor
    · simp [after, start, Duration.zero]
    · simp [after, start]
  | succ n ih =>
    obtain ⟨previous, current⟩ := ih
    have cap := (bounds_after least most n).2
    have capIsSpan := most.nanos_le
    have sum : Nat.fib (n + 2) * least.nanos =
        Nat.fib n * least.nanos + Nat.fib (n + 1) * least.nanos := by
      rw [Nat.fib_add_two, Nat.add_mul]
    constructor
    · exact current
    · have next : (after least most (n + 1)).current =
          ((after least most n).previous.add (after least most n).current).least
            (after least most n).most := rfl
      rw [next, cap, Duration.nanos_least, Duration.nanos_add, previous, current, sum]
      omega

theorem restart_after (least most : Duration) (n : Nat) :
    (after least most n).restart = start least most := by
  obtain ⟨leastEq, mostEq⟩ := bounds_after least most n
  rw [restart, leastEq, mostEq]

end Backoff

namespace Schedule

/-- The state of a pacing of which `n` pauses are over. -/
def afterPauses (pacing : Pacing) : Nat → Schedule
  | 0 => ofPacing pacing
  | n + 1 => (afterPauses pacing n).next.2

theorem afterPauses_every (pause : Duration) (n : Nat) :
    afterPauses (.every pause) n = every pause := by
  induction n with
  | zero => rfl
  | succ n ih => rw [afterPauses, ih, next]

theorem afterPauses_fibonacci (least most : Duration) (n : Nat) :
    afterPauses (.fibonacci least most) n = growing (Backoff.after least most n) := by
  induction n with
  | zero => rfl
  | succ n ih => rw [afterPauses, ih, next, Backoff.after]

/-- After `n` pauses the next one is due. -/
theorem nanos_next_afterPauses (pacing : Pacing) (n : Nat) :
    (afterPauses pacing n).next.1.nanos = pacing.pauseNanos (n + 1) := by
  cases pacing with
  | every pause => rw [afterPauses_every, next, Pacing.pauseNanos]
  | fibonacci least most =>
    rw [afterPauses_fibonacci, next, Pacing.pauseNanos]
    exact (Backoff.nanos_after least most n).2

/-- Beginning again forgets how many pauses are over. -/
theorem restart_afterPauses (pacing : Pacing) (n : Nat) :
    (afterPauses pacing n).restart = afterPauses pacing 0 := by
  cases pacing with
  | every pause => rw [afterPauses_every, restart, afterPauses_every]
  | fibonacci least most =>
    rw [afterPauses_fibonacci, restart, Backoff.restart_after]
    rfl

end Schedule

/-- No pause is shorter than the least one of the pacing. -/
theorem Pacing.leastPause_le_pauseNanos (pacing : Pacing) (n : Nat) :
    pacing.leastPause.nanos ≤ pacing.pauseNanos (n + 1) := by
  cases pacing with
  | every pause => exact Nat.le_refl _
  | fibonacci least most =>
    have positive : 0 < Nat.fib (n + 1) := Nat.fib_pos.mpr (Nat.succ_pos n)
    have multiple : least.nanos ≤ Nat.fib (n + 1) * least.nanos :=
      Nat.le_mul_of_pos_left _ positive
    rw [leastPause, pauseNanos, Duration.nanos_least]
    omega

end VirtLifecycle
