/-
Module: VirtLifecycle.Proofs.Wait.Counters
Purpose: Whether the counts of a wait fit into counters of 32 bits: the number of its looks, and of looks
  in a row that find nothing. No look comes before the clock has slept for the least pause as often as
  there were looks before it, so the counts fit if time is up by then. With pauses that are all the same
  they fit for no other reason, since a resource may stay missing; and a budget of seven weeks with a
  pause of a millisecond is too long.
Main exports: WaitConfig.counterSize, WaitConfig.CountsFit, WaitConfig.afterSleeps_le_lookTime,
  WaitConfig.counts_fit_in_time, WaitConfig.counts_overrun
-/
import VirtLifecycle.Proofs.Wait.Bound
import VirtLifecycle.Proofs.Wait.Instant

namespace VirtLifecycle

variable {ε α : Type}

/-- Who sleeps later and longer wakes later. -/
theorem Clock.sleepUntil_add_le {a b d e : Nat} (later : a ≤ b) (longer : d ≤ e) :
    sleepUntil a (a + d) ≤ sleepUntil b (b + e) := by
  unfold sleepUntil
  by_cases stays : a + d ≤ a
  · rw [if_pos stays]
    exact Nat.le_trans later (le_sleepUntil b (b + e))
  · have sleeps : ¬ b + e ≤ b := by omega
    rw [if_neg stays, if_neg sleeps]
    exact monotone_ceilMilli (Nat.add_le_add later longer)

theorem Script.missingBefore_le (s : Script ε α) (k : Nat) : s.missingBefore k ≤ k := by
  induction k with
  | zero => exact Nat.le_refl 0
  | succ k ih =>
    rw [missingBefore]
    split <;> omega

/-- The resource stays missing, and each look finds that out at once. -/
def Script.neverThere : Script ε α :=
  fun _ => ⟨.ok .missing, .zero⟩

theorem Script.missingBefore_neverThere (k : Nat) : (neverThere : Script ε α).missingBefore k = k := by
  induction k with
  | zero => rfl
  | succ k ih =>
    have missing : (neverThere k : Look ε α).IsMissing := trivial
    rw [missingBefore, if_pos missing, ih]

namespace WaitConfig

variable {c : WaitConfig} {s : Script ε α} {start k n turns : Nat}

/-- How many values a counter of 32 bits has. -/
def counterSize : Nat := 2 ^ 32

/-- Counters of 32 bits hold the numbers that a wait by the script counts: that of its looks, and at each
look that of looks in a row that have found nothing. -/
structure CountsFit (c : WaitConfig) (s : Script ε α) (start : Nat) : Prop where
  looks : ∀ turns, (c.runWithin turns s start).calls.length < counterSize
  missing : ∀ turns n, n ≤ (c.runWithin turns s start).calls.length → s.missingBefore n < counterSize

/-! ### Counts that fit -/

/-- A look that is due does not begin before the clock has slept for the least pause as often as there were
looks before it. -/
theorem afterSleeps_le_lookTime (s : Script ε α) (due : c.lookTime s start k < c.deadline start) :
    Clock.afterSleeps c.pacing.leastPause.nanos (c.firstLook start) k ≤ c.lookTime s start k := by
  induction k with
  | zero => exact Nat.le_refl _
  | succ k ih =>
    have ended := c.lookTime_le_lookEnd s start k
    have next := c.lookEnd_le_lookTime_succ s start k
    have before := ih (Nat.lt_of_le_of_lt (Nat.le_trans ended next) due)
    have uncut : min (c.lookEnd s start k + c.pauseAfter s k) (c.deadline start) =
        c.lookEnd s start k + c.pauseAfter s k := by
      have pause := c.lookEnd_add_pause_le_lookTime s start due
      exact Nat.min_eq_left (Nat.le_of_lt (Nat.lt_of_le_of_lt pause due))
    rw [lookTime_succ, uncut, Clock.afterSleeps]
    exact Clock.sleepUntil_add_le (Nat.le_trans before ended) (c.pacing.leastPause_le_pauseNanos _)

/-- The counts fit if time is up before the clock has slept for the least pause too often. -/
theorem countsFit_of_deadline_le
    (upInTime : c.deadline start ≤
      Clock.afterSleeps c.pacing.leastPause.nanos (c.firstLook start) (counterSize - 1))
    (s : Script ε α) : c.CountsFit s start := by
  have looks : ∀ turns, (c.runWithin turns s start).calls.length < counterSize := by
    intro turns
    obtain ⟨n, calls, due, -⟩ := (c.runWithin_comesTo turns s start).calls
    rw [calls, length_looksFrom]
    apply Nat.lt_of_not_le
    intro many
    have last := due (counterSize - 1) (Nat.lt_of_lt_of_le (by decide) many)
    have begins := afterSleeps_le_lookTime s last
    exact Nat.not_le.mpr last (Nat.le_trans upInTime begins)
  refine ⟨looks, fun turns n upTo => ?_⟩
  calc
    s.missingBefore n ≤ n := s.missingBefore_le n
    _ ≤ (c.runWithin turns s start).calls.length := upTo
    _ < counterSize := looks turns

/-! ### Counts that do not fit -/

/-- If no look before look `k` decides anything and that one is due, it is made. -/
theorem ComesTo.lt_length_calls {run : Plan.Run Unit Nat (Except (WaitError ε) (Resolution α) × Nat)}
    (whole : c.ComesTo s start 0 turns run) (allowed : k < turns)
    (undecided : ∀ j < k, c.Undecided s start j) (due : c.lookTime s start k < c.deadline start) :
    k < run.calls.length := by
  cases whole with
  | @ended m n time result later decides first begun =>
    have notBefore : k ≤ m := Nat.le_of_not_lt fun before => undecided m before _ _ decides
    rw [length_looksFrom]
    rcases Nat.eq_or_lt_of_le notBefore with rfl | after
    · rw [begunBy, if_pos due] at begun
      omega
    · have atLeast := c.le_begunBy s start m
      omega
  | unfinished => rwa [length_looksFrom]

section NeverThere

variable {pause : Duration} (paced : c.pacing = .every pause) (target : c.target ≠ [])
  (tolerant : ∀ limit, c.missingLimit = some limit → counterSize - 1 ≤ limit.toNat)

include paced target tolerant

/-- A resource that stays missing is looked for as long as there is time. -/
theorem lt_length_calls_neverThere (few : k < counterSize)
    (due : Clock.afterSleeps pause.nanos (c.firstLook start) k < c.deadline start) :
    k < (c.runWithin counterSize (Script.neverThere : Script ε α) start).calls.length := by
  have regular : c.Regular (Script.neverThere : Script ε α) start (c.firstLook start) pause :=
    ⟨rfl, paced, fun _ => rfl⟩
  refine (c.runWithin_comesTo counterSize _ start).lt_length_calls few ?_ (regular.counts due).begins
  intro j before
  have dueBefore := Nat.lt_of_le_of_lt
    (Clock.monotone_afterSleeps pause.nanos (c.firstLook start) (Nat.le_of_lt before)) due
  refine undecided_of_tolerated (regular.counts dueBefore) rfl target fun limit bounded => ?_
  rw [Script.missingBefore_neverThere]
  have atLeast := tolerant limit bounded
  omega

theorem deadline_le_of_countsFit (fits : c.CountsFit (Script.neverThere : Script ε α) start) :
    c.deadline start ≤ Clock.afterSleeps pause.nanos (c.firstLook start) (counterSize - 1) := by
  apply Nat.le_of_not_lt
  intro due
  have made := lt_length_calls_neverThere (ε := ε) (α := α) paced target tolerant (by decide) due
  have fit := fits.looks counterSize
  omega

end NeverThere

/-- The clock has slept too often by the deadline if no more than so many least pauses begin after the
delay. -/
theorem deadline_le_of_mostLooks_lt (positive : 0 < c.pacing.leastPause.nanos)
    (few : c.mostLooks start < counterSize) :
    c.deadline start ≤
      Clock.afterSleeps c.pacing.leastPause.nanos (c.firstLook start) (counterSize - 1) := by
  have slept := Clock.add_mul_le_afterSleeps c.pacing.leastPause.nanos (c.firstLook start)
    (counterSize - 1)
  have opens : min (start + c.delay.nanos) (c.deadline start) ≤ c.firstLook start :=
    Clock.until_le_sleepUntil _ _
  have deadlineEq : c.deadline start = start + c.budgetNanos start := rfl
  have fits : c.budgetNanos start - c.delay.nanos ≤ (counterSize - 1) * c.pacing.leastPause.nanos := by
    rw [Nat.mul_comm]
    exact (ceilDiv_le_iff_le_mul positive).mp (Nat.le_sub_one_of_lt few)
  omega

/-- **The counts of a wait fit into 32 bits if time is up soon enough.** That is when the clock has slept
for the least pause once less than the counters have values, as it has if less than that many least
pauses begin after the delay. If the pauses are all the same, the counts fit in all cases only then. -/
theorem counts_fit_in_time (c : WaitConfig) (start : Nat) :
    (c.deadline start ≤
        Clock.afterSleeps c.pacing.leastPause.nanos (c.firstLook start) (counterSize - 1) →
      ∀ s : Script ε α, c.CountsFit s start) ∧
      (0 < c.pacing.leastPause.nanos → c.mostLooks start < counterSize →
        ∀ s : Script ε α, c.CountsFit s start) ∧
      ∀ pause, c.pacing = .every pause → c.target ≠ [] →
        (∀ limit, c.missingLimit = some limit → counterSize - 1 ≤ limit.toNat) →
        ((∀ s : Script ε α, c.CountsFit s start) ↔
          c.deadline start ≤
            Clock.afterSleeps pause.nanos (c.firstLook start) (counterSize - 1)) := by
  refine ⟨countsFit_of_deadline_le, ?_, ?_⟩
  · intro positive few
    exact countsFit_of_deadline_le (deadline_le_of_mostLooks_lt positive few)
  · intro pause paced target tolerant
    have least : c.pacing.leastPause = pause := by
      rw [paced]
      rfl
    constructor
    · intro fit
      exact deadline_le_of_countsFit paced target tolerant (fit Script.neverThere)
    · intro upInTime
      rw [← least] at upInTime
      exact countsFit_of_deadline_le upInTime

/-- So many milliseconds to look for a machine every millisecond. -/
def everyMilli (millis : Nat) : WaitConfig :=
  { WaitConfig.ofTimeout (.ofMillis millis) with
    target := ["Ready"]
    pacing := .every (.ofMillis 1) }

theorem regular_everyMilli (millis : Nat) (s : Script ε α) (instant : ∀ k, (s k).takes = .zero) :
    (everyMilli millis).Regular s 0 0 (.ofMillis 1) :=
  ⟨firstLook_of_noDelay rfl 0, rfl, instant⟩

theorem afterSleeps_milli (k : Nat) :
    Clock.afterSleeps (Duration.ofMillis 1).nanos 0 k = k * Duration.milliNanos := by
  have pause : Clock.ceilMilli (Duration.ofMillis 1).nanos = Duration.milliNanos := by decide
  have whole : Clock.IsMilli 0 := by decide
  rw [Clock.afterSleeps_of_isMilli _ whole, pause, Nat.zero_add]

/-- One millisecond less than the counters have values is a budget that is short enough, and one more is
not. -/
theorem counts_fit_in_time_of_millis :
    0 < (everyMilli (counterSize - 1)).pacing.leastPause.nanos ∧
      (everyMilli (counterSize - 1)).mostLooks 0 < counterSize ∧
      (everyMilli (counterSize - 1)).CountsFit (Script.neverThere : Script String Nat) 0 ∧
      (everyMilli counterSize).pacing = .every (.ofMillis 1) ∧ (everyMilli counterSize).target ≠ [] ∧
      ¬ ∀ s : Script String Nat, (everyMilli counterSize).CountsFit s 0 := by
  have positive : 0 < (everyMilli (counterSize - 1)).pacing.leastPause.nanos := by decide
  have few : (everyMilli (counterSize - 1)).mostLooks 0 < counterSize := by decide
  have paced : (everyMilli counterSize).pacing = .every (.ofMillis 1) := rfl
  have target : (everyMilli counterSize).target ≠ [] := List.cons_ne_nil _ _
  have tooLong : ¬ (everyMilli counterSize).deadline 0 ≤
      Clock.afterSleeps (Duration.ofMillis 1).nanos 0 (counterSize - 1) := by
    rw [afterSleeps_milli]
    decide
  have fitsOnlyIf := (counts_fit_in_time (ε := String) (α := Nat) (everyMilli counterSize) 0).2.2
    _ paced target fun limit bounded => nomatch bounded
  rw [show (everyMilli counterSize).firstLook 0 = 0 from rfl] at fitsOnlyIf
  exact ⟨positive, few, (counts_fit_in_time _ 0).2.1 positive few _, paced, target,
    fun fit => tooLong (fitsOnlyIf.mp fit)⟩

/-- With a millisecond more, a machine that never appears is looked for once more than the counters can
show, and all these looks in a row find nothing. -/
theorem counts_overrun :
    ((everyMilli counterSize).runOn (Script.neverThere : Script String Nat) 0).calls.length =
        counterSize ∧
      (Script.neverThere : Script String Nat).missingBefore counterSize = counterSize ∧
      ¬ (everyMilli counterSize).CountsFit (Script.neverThere : Script String Nat) 0 := by
  have regular := regular_everyMilli counterSize (Script.neverThere : Script String Nat) fun _ => rfl
  have deadline : (everyMilli counterSize).deadline 0 = counterSize * Duration.milliNanos := by decide
  have due : ∀ j < counterSize,
      Clock.afterSleeps (Duration.ofMillis 1).nanos 0 j < (everyMilli counterSize).deadline 0 := by
    intro j few
    rw [afterSleeps_milli, deadline]
    exact Nat.mul_lt_mul_of_pos_right few (by decide)
  have late : (everyMilli counterSize).deadline 0 ≤
      Clock.afterSleeps (Duration.ofMillis 1).nanos 0 counterSize := by
    rw [afterSleeps_milli, deadline]
  have undecided : ∀ j < counterSize,
      (everyMilli counterSize).Undecided (Script.neverThere : Script String Nat) 0 j := by
    intro j few
    exact undecided_of_tolerated (regular.counts (due j few)) rfl (List.cons_ne_nil _ _)
      fun limit bounded => nomatch bounded
  have looks : ((everyMilli counterSize).runOn (Script.neverThere : Script String Nat) 0).calls.length =
      counterSize := by
    rw [regular.runOn_of_late (by decide) late due undecided, List.length_map, List.length_range]
  refine ⟨looks, Script.missingBefore_neverThere counterSize, fun fits => ?_⟩
  have fit := fits.looks ((everyMilli counterSize).enoughTurns 0)
  exact Nat.lt_irrefl _ (looks ▸ fit)

end WaitConfig

end VirtLifecycle
