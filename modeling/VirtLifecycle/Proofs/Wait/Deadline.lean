/-
Module: VirtLifecycle.Proofs.Wait.Deadline
Purpose: How a wait keeps its deadline. On whole milliseconds nothing is rounded: looks begin exactly
  when the delay, the looks before and the pauses between are over, none begins at the deadline or
  later, nothing goes on beyond it, and a wait that runs out of time ends exactly then.
Main exports: WaitConfig.Timely, WaitConfig.Punctual, WaitConfig.wait_keeps_deadline
-/
import VirtLifecycle.Proofs.Wait.Trace

namespace VirtLifecycle

/-- A span is a whole number of milliseconds, or as long as the budget or longer. -/
def Duration.Exact (budget : Nat) (d : Duration) : Prop :=
  Clock.IsMilli d.nanos ∨ budget ≤ d.nanos

/-- The spans that a pacing is made of. -/
def Pacing.spans : Pacing → List Duration
  | every pause => [pause]
  | fibonacci least most => [least, most]

/-- A span that the clock cannot be put forward by lies beyond the budget. -/
theorem Duration.exact_of_not_canShow (c : WaitConfig) {start : Nat} {d : Duration}
    (year : Clock.CanShow (start + WaitConfig.yearNanos))
    (beyond : ¬ Clock.CanShow (start + d.nanos)) : d.Exact (c.budgetNanos start) := by
  right
  unfold WaitConfig.budgetNanos
  split
  · rename_i shown
    have before := shown.lt beyond
    omega
  · have before := year.lt beyond
    omega

/-- The pauses of a pacing are exact if its spans are. -/
theorem Pacing.pauseNanos_exact {budget : Nat} (pacing : Pacing)
    (spansExact : ∀ span ∈ pacing.spans, span.Exact budget) (n : Nat) :
    Clock.IsMilli (pacing.pauseNanos (n + 1)) ∨ budget ≤ pacing.pauseNanos (n + 1) := by
  cases pacing with
  | every pause => exact spansExact pause (List.mem_singleton.mpr rfl)
  | fibonacci least most =>
    have positive : 0 < Nat.fib (n + 1) := Nat.fib_pos.mpr (Nat.succ_pos n)
    have atLeast : least.nanos ≤ Nat.fib (n + 1) * least.nanos :=
      Nat.le_mul_of_pos_left _ positive
    have multipleExact : Clock.IsMilli (Nat.fib (n + 1) * least.nanos) ∨
        budget ≤ Nat.fib (n + 1) * least.nanos := by
      rcases spansExact least (by simp [spans]) with whole | long
      · exact .inl (whole.mul _)
      · exact .inr (Nat.le_trans long atLeast)
    have mostExact : most.Exact budget := spansExact most (by simp [spans])
    rw [pauseNanos]
    -- the minimum is one of the two, so it is exact like that one
    rcases Nat.le_total (Nat.fib (n + 1) * least.nanos) most.nanos with low | high
    · rwa [Nat.min_eq_left low]
    · rwa [Nat.min_eq_right high]

namespace WaitConfig

variable {ε α : Type} {c : WaitConfig} {s : Script ε α} {start : Nat}

/-- What a look takes is a whole number of milliseconds if it begins on one. -/
theorem lookEnd_eq_of_isMilli {k : Nat} (whole : Clock.IsMilli (c.lookTime s start k)) :
    c.lookEnd s start k = c.lookTime s start k + Clock.ceilMilli (s k).takes.nanos :=
  Clock.sleepUntil_add whole _

/-- Timers meet all times of a wait exactly: it starts on one, and its spans are whole milliseconds. A
span that is too long for the clock may be any, since it lies beyond the budget
(`Duration.exact_of_not_canShow`). -/
structure Timely (c : WaitConfig) (start : Nat) : Prop where
  opening : Clock.IsMilli start
  timeout : Clock.IsMilli c.timeout.nanos ∨ ¬ Clock.CanShow (start + c.timeout.nanos)
  delay : c.delay.Exact (c.budgetNanos start)
  pacing : ∀ span ∈ c.pacing.spans, span.Exact (c.budgetNanos start)

namespace Timely

variable (timely : c.Timely start)

include timely

theorem isMilli_deadline : Clock.IsMilli (c.deadline start) := by
  have budget : Clock.IsMilli (c.budgetNanos start) := by
    unfold budgetNanos
    split
    · rename_i shown
      exact timely.timeout.resolve_right (not_not_intro shown)
    · decide
  exact timely.opening.add budget

theorem cutOff_eq : c.cutOff start = c.deadline start :=
  Clock.ceilMilli_of_isMilli timely.isMilli_deadline

/-- What is exact ends on a timer, or is cut short by the deadline. -/
theorem isMilli_min {begun d : Nat} (whole : Clock.IsMilli begun) (later : start ≤ begun)
    (exactly : Clock.IsMilli d ∨ c.budgetNanos start ≤ d) :
    Clock.IsMilli (min (begun + d) (c.deadline start)) := by
  rcases exactly with wholeSpan | long
  · exact (whole.add wholeSpan).min timely.isMilli_deadline
  · have cut : c.deadline start ≤ begun + d := by
      unfold deadline
      omega
    rw [Nat.min_eq_right cut]
    exact timely.isMilli_deadline

theorem firstLook_eq : c.firstLook start = min (start + c.delay.nanos) (c.deadline start) := by
  have wake := timely.isMilli_min timely.opening (Nat.le_refl start) timely.delay
  have later : start ≤ min (start + c.delay.nanos) (c.deadline start) := by
    unfold deadline
    omega
  rw [firstLook, Clock.sleepUntil_of_isMilli wake, Nat.max_eq_right later]

/-- The pause after a look ends exactly, or is cut short by the deadline. -/
theorem isMilli_wake {k : Nat} (whole : Clock.IsMilli (c.lookTime s start k)) :
    Clock.IsMilli (min (c.lookEnd s start k + c.pauseAfter s k) (c.deadline start)) := by
  have ended : Clock.IsMilli (c.lookEnd s start k) := by
    rw [WaitConfig.lookEnd_eq_of_isMilli whole]
    exact whole.add (Clock.isMilli_ceilMilli _)
  have later : start ≤ c.lookEnd s start k :=
    Nat.le_trans (c.start_le_lookTime s start k) (c.lookTime_le_lookEnd s start k)
  exact timely.isMilli_min ended later (c.pacing.pauseNanos_exact timely.pacing _)

/-- All looks begin on whole milliseconds. -/
theorem isMilli_lookTime (s : Script ε α) (k : Nat) : Clock.IsMilli (c.lookTime s start k) := by
  induction k with
  | zero =>
    rw [lookTime, timely.firstLook_eq]
    exact timely.isMilli_min timely.opening (Nat.le_refl start) timely.delay
  | succ k ih =>
    have ended : Clock.IsMilli (c.lookEnd s start k) := by
      rw [WaitConfig.lookEnd_eq_of_isMilli ih]
      exact ih.add (Clock.isMilli_ceilMilli _)
    rw [lookTime_succ, Clock.sleepUntil_of_isMilli (timely.isMilli_wake ih)]
    exact ended.max (timely.isMilli_wake ih)

theorem lookEnd_eq (s : Script ε α) (k : Nat) :
    c.lookEnd s start k = c.lookTime s start k + Clock.ceilMilli (s k).takes.nanos :=
  WaitConfig.lookEnd_eq_of_isMilli (timely.isMilli_lookTime s k)

theorem lookTime_succ_eq (s : Script ε α) (k : Nat) :
    c.lookTime s start (k + 1) =
      max (c.lookEnd s start k) (min (c.lookEnd s start k + c.pauseAfter s k) (c.deadline start)) := by
  rw [lookTime_succ, Clock.sleepUntil_of_isMilli (timely.isMilli_wake (timely.isMilli_lookTime s k))]

/-- A look that is due before the deadline begins exactly a pause after the one before is over. -/
theorem lookTime_succ_of_due {k : Nat} (due : c.lookTime s start (k + 1) < c.deadline start) :
    c.lookTime s start (k + 1) =
      c.lookTime s start k + Clock.ceilMilli (s k).takes.nanos + c.pauseAfter s k := by
  have next := timely.lookTime_succ_eq s k
  rw [← timely.lookEnd_eq s k]
  omega

/-- As long as no look decides anything, the next one is due at the deadline at the latest. -/
theorem lookTime_le_deadline {k : Nat} (undecided : ∀ j < k, c.Undecided s start j) :
    c.lookTime s start k ≤ c.deadline start := by
  cases k with
  | zero =>
    rw [lookTime, timely.firstLook_eq]
    exact Nat.min_le_right _ _
  | succ k =>
    have ends := (undecided k (Nat.lt_succ_self k)).ends
    rw [timely.cutOff_eq] at ends
    rw [timely.lookTime_succ_eq s k]
    exact Nat.max_le.mpr ⟨ends, Nat.min_le_right _ _⟩

end Timely

/-! ### Runs on time -/

/-- The run of a wait keeps to the clock. Look `k` takes its span up to the next timer. -/
structure Punctual (c : WaitConfig) (s : Script ε α) (start : Nat)
    (run : Plan.Run Unit Nat (Except (WaitError ε) (Resolution α) × Nat)) : Prop where
  /-- the first look begins when the delay is over -/
  opens : c.delay.nanos < c.budgetNanos start →
    run.calls[0]? = some (start + c.delay.nanos, ())
  /-- if the delay uses up the budget, there is none -/
  idle : c.budgetNanos start ≤ c.delay.nanos → run.calls = []
  /-- between the beginnings of two looks lie the first of them and the pause after it -/
  paces : ∀ k now later, run.calls[k]? = some (now, ()) → run.calls[k + 1]? = some (later, ()) →
    later = now + Clock.ceilMilli (s k).takes.nanos + c.pauseAfter s k
  /-- no look begins when the budget is used up or later -/
  begins : ∀ call ∈ run.calls, call.1 < start + c.budgetNanos start
  /-- nothing goes on when the budget is used up -/
  ends : ∀ result time, run.result = some (result, time) → time ≤ start + c.budgetNanos start
  /-- running out of time happens when the budget is used up, not before -/
  expires : ∀ timeout target lastState time,
    run.result = some (.error (.timeout timeout target lastState), time) →
      time = start + c.budgetNanos start

/-- What a wait decides in the end is decided by the deadline, and not before if time ran out. -/
theorem Timely.decides_by_deadline (timely : c.Timely start) {k time : Nat}
    {result : Except (WaitError ε) (Resolution α)} (first : c.FirstDecision s start k result time) :
    time ≤ c.deadline start ∧
      ∀ timeout target lastState, result = .error (.timeout timeout target lastState) →
        time = c.deadline start := by
  have due := timely.lookTime_le_deadline first.first
  have cut := timely.cutOff_eq
  cases first.decides with
  | late begins =>
    exact ⟨due, fun _ _ _ _ => Nat.le_antisymm due begins⟩
  | cutOff begins runs => exact ⟨Nat.le_of_eq cut, fun _ _ _ _ => cut⟩
  | failed cause counts shown
  | reached state value counts shown target
  | unexpected state value counts shown target pending
  | absent counts shown target
  | missing limit counts target bounded counted enough shown =>
    refine ⟨cut ▸ counts.ends, ?_⟩
    intro _ _ _ equal
    cases equal

/-- A wait that may look at least once keeps to the clock. -/
theorem ComesTo.punctual (timely : c.Timely start) {turns : Nat} (allowed : 0 < turns)
    {run : Plan.Run Unit Nat (Except (WaitError ε) (Resolution α) × Nat)}
    (whole : c.ComesTo s start 0 turns run) : c.Punctual s start run := by
  have firstLook := timely.firstLook_eq
  obtain ⟨n, calls, due, undecided⟩ := whole.calls
  have deadlineEq : c.deadline start = start + c.budgetNanos start := rfl
  constructor
  case opens =>
    intro short
    have early : c.lookTime s start 0 = start + c.delay.nanos := by
      rw [lookTime, firstLook]
      omega
    rw [← early]
    exact whole.head?_calls allowed (by omega)
  case idle =>
    intro long
    have late : c.lookTime s start 0 = c.deadline start := by
      rw [lookTime, firstLook]
      omega
    cases n with
    | zero => exact calls
    | succ n => exact absurd (due 0 (Nat.succ_pos n)) (by omega)
  case paces =>
    intro k now later this next
    rw [calls, getElem?_looksFrom] at this next
    obtain ⟨_, rfl⟩ := this
    obtain ⟨low, rfl⟩ := next
    exact timely.lookTime_succ_of_due (due (k + 1) low)
  case begins =>
    intro call made
    rw [calls, mem_looksFrom] at made
    obtain ⟨i, low, rfl⟩ := made
    exact due i low
  case ends =>
    intro result time ended
    obtain ⟨k, first⟩ := whole.firstDecision ended
    exact (timely.decides_by_deadline first).1
  case expires =>
    intro timeout target lastState time ended
    obtain ⟨k, first⟩ := whole.firstDecision ended
    exact (timely.decides_by_deadline first).2 timeout target lastState rfl

end WaitConfig

end VirtLifecycle
