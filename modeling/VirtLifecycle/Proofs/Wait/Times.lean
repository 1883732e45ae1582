/-
Module: VirtLifecycle.Proofs.Wait.Times
Purpose: When the looks of a wait are due. Each look before the deadline begins at least the least
  pause after the one before it is over, and in a later millisecond; so after enough looks the time
  is used up.
Main exports: WaitConfig.delay_add_pauses_le_lookTime, WaitConfig.deadline_le_lookTime_enoughTurns
-/
import VirtLifecycle.Proofs.Wait.Script

namespace VirtLifecycle.WaitConfig

variable {ε α : Type} (c : WaitConfig) (s : Script ε α) (start : Nat)

theorem enoughTurns_pos : 0 < c.enoughTurns start := by
  unfold enoughTurns
  split
  · exact Nat.two_pow_pos 32
  · exact Nat.succ_pos _

theorem lookTime_le_lookEnd (k : Nat) : c.lookTime s start k ≤ c.lookEnd s start k :=
  Clock.le_sleepUntil _ _

theorem lookEnd_le_lookTime_succ (k : Nat) : c.lookEnd s start k ≤ c.lookTime s start (k + 1) :=
  Clock.le_sleepUntil _ _

theorem start_le_lookTime (k : Nat) : start ≤ c.lookTime s start k := by
  induction k with
  | zero => exact Clock.le_sleepUntil _ _
  | succ k ih =>
    calc
      start ≤ c.lookTime s start k := ih
      _ ≤ c.lookEnd s start k := c.lookTime_le_lookEnd s start k
      _ ≤ c.lookTime s start (k + 1) := c.lookEnd_le_lookTime_succ s start k

/-- Before the deadline no pause is cut short. -/
theorem lookEnd_add_pause_le_lookTime {k : Nat}
    (due : c.lookTime s start (k + 1) < c.deadline start) :
    c.lookEnd s start k + c.pauseAfter s k ≤ c.lookTime s start (k + 1) := by
  have pastWake : min (c.lookEnd s start k + c.pauseAfter s k) (c.deadline start) ≤
      c.lookTime s start (k + 1) := Clock.until_le_sleepUntil _ _
  omega

/-- The delay and the pauses between the looks have passed when a look begins. -/
theorem delay_add_pauses_le_lookTime {k : Nat} (due : c.lookTime s start k < c.deadline start) :
    start + c.delay.nanos + k * c.pacing.leastPause.nanos ≤ c.lookTime s start k := by
  induction k with
  | zero =>
    have pastWake : min (start + c.delay.nanos) (c.deadline start) ≤ c.lookTime s start 0 :=
      Clock.until_le_sleepUntil _ _
    omega
  | succ k ih =>
    have pauses := c.lookEnd_add_pause_le_lookTime s start due
    have least : c.pacing.leastPause.nanos ≤ c.pauseAfter s k :=
      c.pacing.leastPause_le_pauseNanos _
    have runs := c.lookTime_le_lookEnd s start k
    have before := ih (by omega)
    rw [Nat.add_one_mul]
    omega

section Positive

variable (positive : 0 < c.pacing.leastPause.nanos)

include positive

/-- After a pause above zero the next look begins on a later timer. -/
theorem lookTime_succ_of_due {k : Nat} (due : c.lookTime s start (k + 1) < c.deadline start) :
    c.lookTime s start k < c.lookTime s start (k + 1) ∧
      Clock.IsMilli (c.lookTime s start (k + 1)) := by
  have pauses := c.lookEnd_add_pause_le_lookTime s start due
  have least : c.pacing.leastPause.nanos ≤ c.pauseAfter s k :=
    c.pacing.leastPause_le_pauseNanos _
  have runs := c.lookTime_le_lookEnd s start k
  have sleeps : ¬ min (c.lookEnd s start k + c.pauseAfter s k) (c.deadline start) ≤
      c.lookEnd s start k := by omega
  constructor
  · omega
  · rw [lookTime_succ, Clock.sleepUntil, if_neg sleeps]
    exact Clock.isMilli_ceilMilli _

/-- Looks before the deadline lie in different milliseconds. -/
theorem millis_lt_lookTime {k : Nat} (due : c.lookTime s start (k + 1) < c.deadline start) :
    start + k * Duration.milliNanos < c.lookTime s start (k + 1) := by
  induction k with
  | zero =>
    have later := (c.lookTime_succ_of_due s start positive due).1
    have first := c.start_le_lookTime s start 0
    omega
  | succ k ih =>
    obtain ⟨later, whole⟩ := c.lookTime_succ_of_due s start positive due
    have dueBefore : c.lookTime s start (k + 1) < c.deadline start := by omega
    have wholeBefore := (c.lookTime_succ_of_due s start positive dueBefore).2
    calc
      start + (k + 1) * Duration.milliNanos
          = start + k * Duration.milliNanos + Duration.milliNanos := by
        rw [Nat.add_one_mul, Nat.add_assoc]
      _ < c.lookTime s start (k + 1) + Duration.milliNanos := Nat.add_lt_add_right (ih dueBefore) _
      _ ≤ c.lookTime s start (k + 1 + 1) := wholeBefore.add_milli_le whole later

/-- When enough looks are made, the time is used up. -/
theorem deadline_le_lookTime_enoughTurns :
    c.deadline start ≤ c.lookTime s start (c.enoughTurns start) := by
  have notZero : ¬ c.pacing.leastPause.isZero = true := by
    rw [Duration.isZero, beq_iff_eq]
    omega
  rw [enoughTurns, if_neg notZero]
  generalize budget : c.budgetNanos start / Duration.milliNanos = millis
  apply Nat.le_of_not_lt
  intro due
  have passed : start + (millis + 1) * Duration.milliNanos < c.lookTime s start (millis + 2) :=
    c.millis_lt_lookTime s start positive due
  unfold deadline at due
  unfold Duration.milliNanos at passed budget
  omega

end Positive

end VirtLifecycle.WaitConfig
