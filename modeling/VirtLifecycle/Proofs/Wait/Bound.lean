/-
Module: VirtLifecycle.Proofs.Wait.Bound
Purpose: How many looks a wait makes. Every pause uses up at least the least one of the time that the
  delay leaves, so a wait with pauses above zero ends after so many looks as these pauses fit into
  that time. It does so whoever answers, and even if a look hangs.
Main exports: WaitConfig.mostLooks, WaitConfig.decides_of_hung, WaitConfig.wait_endsWithin
-/
import Mathlib.Algebra.Order.Floor.Div
import VirtLifecycle.Proofs.Wait.Trace

namespace VirtLifecycle.WaitConfig

variable {ε α : Type} {c : WaitConfig} {s : Script ε α} {start : Nat}

/-- The number of least pauses that begin in the time after the delay. -/
def mostLooks (c : WaitConfig) (start : Nat) : Nat :=
  (c.budgetNanos start - c.delay.nanos) ⌈/⌉ c.pacing.leastPause.nanos

/-- A look that is due in time comes after less than that many pauses. -/
theorem lt_mostLooks (positive : 0 < c.pacing.leastPause.nanos) {k : Nat}
    (due : c.lookTime s start k < c.deadline start) : k < c.mostLooks start := by
  have begins := c.delay_add_pauses_le_lookTime s start due
  have deadlineEq : c.deadline start = start + c.budgetNanos start := rfl
  have fits : c.pacing.leastPause.nanos * k < c.budgetNanos start - c.delay.nanos := by
    rw [Nat.mul_comm]
    omega
  apply Nat.lt_of_not_le
  intro few
  exact Nat.not_le.mpr fits ((ceilDiv_le_iff_le_mul positive).mp few)

theorem ComesTo.length_calls_le (positive : 0 < c.pacing.leastPause.nanos) {turns : Nat}
    {run : Plan.Run Unit Nat (Except (WaitError ε) (Resolution α) × Nat)}
    (whole : c.ComesTo s start 0 turns run) : run.calls.length ≤ c.mostLooks start := by
  obtain ⟨n, calls, due, _⟩ := whole.calls
  rw [calls, length_looksFrom]
  cases n with
  | zero => exact Nat.zero_le _
  | succ n => exact lt_mostLooks positive (due n (Nat.lt_succ_self n))

/-- The largest span is longer than any wait. -/
theorem budgetNanos_add_milli_le (c : WaitConfig) (start : Nat) :
    c.budgetNanos start + Duration.milliNanos ≤ Duration.max.nanos := by
  have largest : Duration.max.nanos = 0xFFFFFFFFFFFFFFFF * 1000000000 + 999999999 := rfl
  have milli : Duration.milliNanos = 1000000 := rfl
  unfold budgetNanos
  split
  · rename_i shown
    have limit : (start + c.timeout.nanos) / 1000000000 < 0x8000000000000000 := shown
    omega
  · decide

/-- A look that hangs is cut off: the largest span outlasts every wait. -/
theorem decides_of_hung {k : Nat} (due : c.lookTime s start k < c.deadline start)
    (hung : (s k).takes = Duration.max) :
    c.Decides s start k (.error (.timeout c.timeout c.target (s.lastState k))) (c.cutOff start) := by
  have begins := c.start_le_lookTime s start k
  have outlasts := c.budgetNanos_add_milli_le start
  have ended : c.lookTime s start k + Duration.max.nanos ≤ c.lookEnd s start k := by
    rw [← hung]
    exact Clock.until_le_sleepUntil _ _
  have timer : c.cutOff start < c.deadline start + Duration.milliNanos :=
    Clock.ceilMilli_lt_add_milli _
  have deadlineEq : c.deadline start = start + c.budgetNanos start := rfl
  exact .cutOff due (by omega)

variable {Call : Type} {Reply : Call → Type} {σ : Type}

/-- A wait with pauses above zero ends within its number of looks, whoever answers them. -/
theorem wait_endsWithin (c : WaitConfig) (positive : 0 < c.pacing.leastPause.nanos)
    (probe : Probe Call Reply ε α) (respond : Plan.Responder Call Reply σ) (state : σ)
    (start : Nat) : ((c.wait probe start).run respond state).EndsWithin (c.mostLooks start) := by
  obtain ⟨s, follows⟩ := c.exists_script probe start respond state
  have whole : c.ComesTo s start 0 (c.enoughTurns start) (c.runOn s start) :=
    c.runWithin_comesTo _ s start
  constructor
  · obtain ⟨k, result, time, _, run⟩ := c.exists_firstDecision s start positive
    rw [follows.result, run]
    rfl
  · rw [follows.calls, List.length_map]
    exact whole.length_calls_le positive

end VirtLifecycle.WaitConfig
