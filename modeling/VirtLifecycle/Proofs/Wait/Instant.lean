/-
Module: VirtLifecycle.Proofs.Wait.Instant
Purpose: Waits whose looks are answered at once and whose pauses are all the same. Their looks are due
  when the clock has slept for one pause after another, which does not depend on what the looks show, so
  a wait comes to its result after as many sleeps as there were looks before the one that decides.
Main exports: Clock.afterSleeps, Clock.exists_late, WaitConfig.Regular, WaitConfig.Regular.lookTime_of_due,
  WaitConfig.Polls, WaitConfig.Polls.runOn_of_decides, WaitConfig.Polls.runOn_of_late
-/
import VirtLifecycle.Proofs.Wait.Trace

namespace VirtLifecycle

namespace Clock

theorem monotone_ceilMilli : Monotone ceilMilli := fun a b h => by
  unfold ceilMilli Duration.milliNanos
  split <;> split <;> omega

/-- A sleep that is cut off ends when it should, or at the timer of the limit. -/
theorem sleepUntil_min {now limit : Nat} (before : now < limit) (t : Nat) :
    sleepUntil now (min t limit) = min (sleepUntil now t) (ceilMilli limit) := by
  have least := le_ceilMilli limit
  unfold sleepUntil
  by_cases past : t ≤ now
  · have pastMin : min t limit ≤ now := Nat.le_trans (Nat.min_le_left ..) past
    rw [if_pos past, if_pos pastMin]
    omega
  · have future : ¬ min t limit ≤ now := by omega
    rw [if_neg past, if_neg future, monotone_ceilMilli.map_min]

/-- What the clock shows after so many sleeps, each for the same time. -/
def afterSleeps (pause start : Nat) : Nat → Nat
  | 0 => start
  | k + 1 => sleepUntil (afterSleeps pause start k) (afterSleeps pause start k + pause)

variable (pause start : Nat)

theorem add_mul_le_afterSleeps (k : Nat) : start + k * pause ≤ afterSleeps pause start k := by
  induction k with
  | zero => exact Nat.le_of_eq (by rw [Nat.zero_mul, Nat.add_zero, afterSleeps])
  | succ k ih =>
    calc
      start + (k + 1) * pause = start + k * pause + pause := by rw [Nat.add_one_mul, Nat.add_assoc]
      _ ≤ afterSleeps pause start k + pause := Nat.add_le_add_right ih pause
      _ ≤ afterSleeps pause start (k + 1) := until_le_sleepUntil _ _

theorem monotone_afterSleeps : Monotone (afterSleeps pause start) :=
  monotone_nat_of_le_succ fun _ => le_sleepUntil _ _

/-- With pauses above zero the clock comes to any time. -/
theorem exists_late {pause : Nat} (positive : 0 < pause) (start limit : Nat) :
    ∃ n, limit ≤ afterSleeps pause start n := by
  refine ⟨limit, ?_⟩
  calc
    limit ≤ start + limit * pause := Nat.le_add_left_of_le (Nat.le_mul_of_pos_right _ positive)
    _ ≤ afterSleeps pause start limit := add_mul_le_afterSleeps ..

/-- From a whole millisecond on, each sleep takes a whole number of milliseconds. -/
theorem afterSleeps_of_isMilli {start : Nat} (whole : IsMilli start) (k : Nat) :
    afterSleeps pause start k = start + k * ceilMilli pause := by
  induction k with
  | zero => rw [Nat.zero_mul, Nat.add_zero, afterSleeps]
  | succ k ih =>
    have wholePauses : IsMilli (k * ceilMilli pause) := (isMilli_ceilMilli pause).mul k
    rw [afterSleeps, ih, sleepUntil_add (whole.add wholePauses), Nat.add_one_mul, Nat.add_assoc]

end Clock

namespace WaitConfig

variable {ε α : Type}

/-- The first look is due when nothing is waited for before it. -/
theorem firstLook_of_noDelay {c : WaitConfig} (noDelay : c.delay.nanos = 0) (start : Nat) :
    c.firstLook start = start := by
  have pastDelay : min (start + c.delay.nanos) (c.deadline start) ≤ start := by omega
  exact if_pos pastDelay

/-- All pauses of the wait are the given one, its first look is due at the given time, and no look takes
time. -/
structure Regular (c : WaitConfig) (s : Script ε α) (start first : Nat) (pause : Duration) : Prop where
  opening : c.firstLook start = first
  pacing : c.pacing = .every pause
  instant : ∀ k, (s k).takes = Duration.zero

namespace Regular

variable {c : WaitConfig} {s : Script ε α} {start first : Nat} {pause : Duration}
  (regular : c.Regular s start first pause)

include regular

theorem lookEnd_eq (k : Nat) : c.lookEnd s start k = c.lookTime s start k := by
  rw [lookEnd, Look.overAt, regular.instant k]
  exact if_pos (Nat.le_refl _)

theorem pauseAfter_eq (k : Nat) : c.pauseAfter s k = pause.nanos := by
  rw [pauseAfter, regular.pacing]
  rfl

theorem first_le_cutOff : first ≤ c.cutOff start := by
  have startLe : start ≤ c.deadline start := Nat.le_add_right _ _
  have deadlineLe : c.deadline start ≤ c.cutOff start := Clock.le_ceilMilli _
  rw [← regular.opening, firstLook, Clock.sleepUntil]
  split
  · exact Nat.le_trans startLe deadlineLe
  · exact Clock.monotone_ceilMilli (Nat.min_le_right ..)

/-- A look is due when the clock has slept for the pauses before it, but no later than the timer of the
deadline. -/
theorem lookTime_eq {k : Nat}
    (earlier : ∀ j < k, Clock.afterSleeps pause.nanos first j < c.deadline start) :
    c.lookTime s start k = min (Clock.afterSleeps pause.nanos first k) (c.cutOff start) := by
  induction k with
  | zero =>
    rw [lookTime, regular.opening, Clock.afterSleeps]
    exact (Nat.min_eq_left regular.first_le_cutOff).symm
  | succ k ih =>
    have due := earlier k (Nat.lt_succ_self k)
    have deadlineLe : c.deadline start ≤ c.cutOff start := Clock.le_ceilMilli _
    have here := ih fun j low => earlier j (Nat.lt_succ_of_lt low)
    rw [Nat.min_eq_left (Nat.le_trans (Nat.le_of_lt due) deadlineLe)] at here
    rw [lookTime_succ, regular.lookEnd_eq, regular.pauseAfter_eq, here, Clock.sleepUntil_min due]
    rfl

theorem lookTime_of_due {k : Nat} (due : Clock.afterSleeps pause.nanos first k < c.deadline start) :
    c.lookTime s start k = Clock.afterSleeps pause.nanos first k := by
  have deadlineLe : c.deadline start ≤ c.cutOff start := Clock.le_ceilMilli _
  rw [regular.lookTime_eq]
  · exact Nat.min_eq_left (Nat.le_trans (Nat.le_of_lt due) deadlineLe)
  · intro j low
    exact Nat.lt_of_le_of_lt (Clock.monotone_afterSleeps _ _ (Nat.le_of_lt low)) due

/-- A look that is due counts: it is over as soon as it has begun. -/
theorem counts {k : Nat} (due : Clock.afterSleeps pause.nanos first k < c.deadline start) :
    c.Counts s start k := by
  have begins : c.lookTime s start k < c.deadline start := by
    rwa [regular.lookTime_of_due due]
  refine ⟨begins, ?_⟩
  rw [regular.lookEnd_eq]
  exact Nat.le_trans (Nat.le_of_lt begins) (Clock.le_ceilMilli _)

/-- If all looks are due before the deadline, they begin one sleep after the other. -/
theorem looksFrom_eq {n : Nat}
    (due : ∀ i < n, Clock.afterSleeps pause.nanos first i < c.deadline start) :
    c.looksFrom s start 0 n =
      (List.range n).map fun i => (Clock.afterSleeps pause.nanos first i, ()) := by
  rw [looksFrom, ← List.range_eq_range']
  apply List.map_congr_left
  intro i made
  rw [regular.lookTime_of_due (due i (List.mem_range.mp made))]

theorem leastPause_pos (positive : 0 < pause.nanos) : 0 < c.pacing.leastPause.nanos := by
  rw [regular.pacing]
  exact positive

/-- A wait of which look `k` is the first that decides ends with that look. -/
theorem runOn_of_decides (positive : 0 < pause.nanos) {k : Nat}
    {result : Except (WaitError ε) (Resolution α)}
    (due : Clock.afterSleeps pause.nanos first k < c.deadline start)
    (decides : c.Decides s start k result (c.lookEnd s start k))
    (undecided : ∀ j < k, c.Undecided s start j) :
    c.runOn s start =
      ⟨some (result, Clock.afterSleeps pause.nanos first k),
        (List.range (k + 1)).map fun i => (Clock.afterSleeps pause.nanos first i, ()), k + 1⟩ := by
  have decision : c.FirstDecision s start k result (c.lookEnd s start k) := ⟨decides, undecided⟩
  have begun : c.begunBy s start k = k + 1 := if_pos (regular.counts due).begins
  have looks := regular.looksFrom_eq (n := k + 1) fun i low =>
    Nat.lt_of_le_of_lt (Clock.monotone_afterSleeps _ _ (Nat.le_of_lt_succ low)) due
  rw [decision.runOn (regular.leastPause_pos positive), begun, looks, regular.lookEnd_eq,
    regular.lookTime_of_due due]

/-- A wait of which look `k` is the first that would be late, and of which no look before decides,
ends when that look would begin or at the timer of its deadline, whichever comes first. -/
theorem runOn_of_late (positive : 0 < pause.nanos) {k : Nat}
    (late : c.deadline start ≤ Clock.afterSleeps pause.nanos first k)
    (due : ∀ j < k, Clock.afterSleeps pause.nanos first j < c.deadline start)
    (undecided : ∀ j < k, c.Undecided s start j) :
    c.runOn s start =
      ⟨some (.error (.timeout c.timeout c.target (s.lastState k)),
          min (Clock.afterSleeps pause.nanos first k) (c.cutOff start)),
        (List.range k).map fun i => (Clock.afterSleeps pause.nanos first i, ()), k⟩ := by
  have begins : c.deadline start ≤ c.lookTime s start k := by
    rw [regular.lookTime_eq due]
    exact Nat.le_min.mpr ⟨late, Clock.le_ceilMilli _⟩
  have decision : c.FirstDecision s start k _ _ := ⟨.late begins, undecided⟩
  have begun : c.begunBy s start k = k := if_neg (Nat.not_lt.mpr begins)
  rw [decision.runOn (regular.leastPause_pos positive), begun, regular.looksFrom_eq due,
    regular.lookTime_eq due]

end Regular

/-- A regular wait up to a limit that goes on with the looks of which the given holds. -/
structure Polls (c : WaitConfig) (s : Script ε α) (start first : Nat) (pause : Duration) (limit : Nat)
    (GoesOn : Nat → Prop) : Prop where
  regular : c.Regular s start first pause
  positive : 0 < pause.nanos
  deadline : c.deadline start = limit
  undecided : ∀ {k : Nat}, c.Counts s start k → GoesOn k → c.Undecided s start k

namespace Polls

variable {c : WaitConfig} {s : Script ε α} {start first limit n : Nat} {pause : Duration}
  {GoesOn : Nat → Prop} (polls : c.Polls s start first pause limit GoesOn)

include polls

/-- A wait that goes on until the look that decides ends with that. -/
theorem runOn_of_decides {result : Except (WaitError ε) (Resolution α)}
    (due : Clock.afterSleeps pause.nanos first n < limit) (earlier : ∀ i < n, GoesOn i)
    (decides : c.Counts s start n → c.Decides s start n result (c.lookEnd s start n)) :
    c.runOn s start =
      ⟨some (result, Clock.afterSleeps pause.nanos first n),
        (List.range (n + 1)).map fun i => (Clock.afterSleeps pause.nanos first i, ()), n + 1⟩ := by
  rw [← polls.deadline] at due
  have undecided : ∀ i < n, c.Undecided s start i := by
    intro i low
    have before := Clock.monotone_afterSleeps pause.nanos first (Nat.le_of_lt low)
    exact polls.undecided (polls.regular.counts (Nat.lt_of_le_of_lt before due)) (earlier i low)
  exact polls.regular.runOn_of_decides polls.positive due (decides (polls.regular.counts due)) undecided

/-- A wait that goes on until it is too late for a look ends with that. -/
theorem runOn_of_late (late : limit ≤ Clock.afterSleeps pause.nanos first n)
    (due : ∀ i < n, Clock.afterSleeps pause.nanos first i < limit) (earlier : ∀ i < n, GoesOn i) :
    c.runOn s start =
      ⟨some (.error (.timeout c.timeout c.target (s.lastState n)),
          min (Clock.afterSleeps pause.nanos first n) (Clock.ceilMilli limit)),
        (List.range n).map fun i => (Clock.afterSleeps pause.nanos first i, ()), n⟩ := by
  have cutOff : c.cutOff start = Clock.ceilMilli limit := congrArg Clock.ceilMilli polls.deadline
  rw [← polls.deadline] at late due
  rw [← cutOff]
  exact polls.regular.runOn_of_late polls.positive late due fun i low =>
    polls.undecided (polls.regular.counts (due i low)) (earlier i low)

end Polls

end WaitConfig

end VirtLifecycle
