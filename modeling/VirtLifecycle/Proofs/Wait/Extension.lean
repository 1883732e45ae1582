/-
Module: VirtLifecycle.Proofs.Wait.Extension
Purpose: A longer budget only extends a wait. Two waits that differ in their budgets alone go in step up
  to the shorter deadline: their looks begin and end at the same times and decide the same. So what ends
  in time ends in the same way with more time, and of what does not, the looks are those that the longer
  wait has made by then.
Main exports: WaitConfig.withTimeout, WaitConfig.lookTime_withTimeout, WaitConfig.InTime,
  WaitConfig.decides_withTimeout_iff, WaitConfig.longer_budget_extends
-/
import VirtLifecycle.Proofs.Wait.Instant

namespace VirtLifecycle

/-- A sleep that ends before the earlier of two limits is cut short by neither. -/
theorem Clock.sleepUntil_min_eq {now t limit limit' : Nat} (longer : limit ≤ limit')
    (due : sleepUntil now (min t limit) < limit ∨ sleepUntil now (min t limit') < limit) :
    sleepUntil now (min t limit') = sleepUntil now (min t limit) := by
  have wake := until_le_sleepUntil now (min t limit)
  have wake' := until_le_sleepUntil now (min t limit')
  have free : t < limit := by omega
  rw [Nat.min_eq_left (Nat.le_of_lt free), Nat.min_eq_left (Nat.le_trans (Nat.le_of_lt free) longer)]

namespace WaitConfig

variable {ε α : Type} {c : WaitConfig} {s : Script ε α} {start k time : Nat} {timeout : Duration}
  {result : Except (WaitError ε) (Resolution α)}

/-- The same wait with another budget. -/
def withTimeout (c : WaitConfig) (timeout : Duration) : WaitConfig :=
  { c with timeout := timeout }

/-- The wait has not run out of time. -/
def InTime (result : Except (WaitError ε) (Resolution α)) : Prop :=
  ∀ cause, result = .error cause → cause.isTimeout = false

/-! ### In step up to the shorter deadline -/

theorem monotone_lookTime (c : WaitConfig) (s : Script ε α) (start : Nat) :
    Monotone (c.lookTime s start) :=
  monotone_nat_of_le_succ fun k =>
    Nat.le_trans (c.lookTime_le_lookEnd s start k) (c.lookEnd_le_lookTime_succ s start k)

section Longer

variable (longer : c.budgetNanos start ≤ (c.withTimeout timeout).budgetNanos start)

include longer

theorem deadline_le_withTimeout : c.deadline start ≤ (c.withTimeout timeout).deadline start :=
  Nat.add_le_add_left longer start

/-- A look that is due before the shorter deadline in either wait is due at the same time in both. -/
theorem lookTime_withTimeout (due : c.lookTime s start k < c.deadline start ∨
      (c.withTimeout timeout).lookTime s start k < c.deadline start) :
    (c.withTimeout timeout).lookTime s start k = c.lookTime s start k := by
  have limits := deadline_le_withTimeout longer
  induction k with
  | zero => exact Clock.sleepUntil_min_eq limits due
  | succ k ih =>
    -- the look before is due even earlier
    have before := c.monotone_lookTime s start (Nat.le_succ k)
    have before' := (c.withTimeout timeout).monotone_lookTime s start (Nat.le_succ k)
    have same := ih (due.imp (Nat.lt_of_le_of_lt before) (Nat.lt_of_le_of_lt before'))
    have ended : (c.withTimeout timeout).lookEnd s start k = c.lookEnd s start k :=
      congrArg (s k).overAt same
    have pauses : (c.withTimeout timeout).pauseAfter s k = c.pauseAfter s k := rfl
    rw [lookTime_succ, lookTime_succ, ended, pauses] at due ⊢
    exact Clock.sleepUntil_min_eq limits due

/-- The looks that are due before the shorter deadline are the same. -/
theorem lookTime_withTimeout_lt_iff : (c.withTimeout timeout).lookTime s start k < c.deadline start ↔
    c.lookTime s start k < c.deadline start := by
  constructor
  · intro due
    rwa [← lookTime_withTimeout longer (.inr due)]
  · intro due
    rwa [lookTime_withTimeout longer (.inl due)]

theorem lookEnd_withTimeout (due : c.lookTime s start k < c.deadline start) :
    (c.withTimeout timeout).lookEnd s start k = c.lookEnd s start k :=
  congrArg (s k).overAt (lookTime_withTimeout longer (.inl due))

/-- A look that counts counts with more time. -/
theorem Counts.withTimeout (counts : c.Counts s start k) :
    (c.withTimeout timeout).Counts s start k where
  begins := by
    rw [lookTime_withTimeout longer (.inl counts.begins)]
    exact Nat.lt_of_lt_of_le counts.begins (deadline_le_withTimeout longer)
  ends := by
    rw [lookEnd_withTimeout longer counts.begins]
    exact Nat.le_trans counts.ends (Clock.monotone_ceilMilli (deadline_le_withTimeout longer))

end Longer

/-! ### The same decisions -/

/-- A look that counts in two waits for the same states, with the same tolerance, decides the same. -/
theorem Decides.of_counts {c' : WaitConfig} (decides : c.Decides s start k result time)
    (counts : c.Counts s start k) (counts' : c'.Counts s start k)
    (ends : c'.lookEnd s start k = c.lookEnd s start k) (pending : c'.pending = c.pending)
    (target : c'.target = c.target) (limit : c'.missingLimit = c.missingLimit) :
    c'.Decides s start k result time := by
  cases decides with
  | late begins => exact absurd counts.begins (Nat.not_lt.mpr begins)
  | cutOff _ runs => exact absurd counts.ends (Nat.not_le.mpr runs)
  | failed cause _ shown =>
    rw [← ends]
    exact .failed cause counts' shown
  | reached state value _ shown isTarget =>
    rw [← ends]
    exact .reached state value counts' shown (target ▸ isTarget)
  | unexpected state value _ shown notTarget notPending =>
    rw [← ends, ← pending, ← target]
    exact .unexpected state value counts' shown (target ▸ notTarget) (pending ▸ notPending)
  | absent _ shown empty =>
    rw [← ends]
    exact .absent counts' shown (target.trans empty)
  | missing most _ states bounded counted enough shown =>
    rw [← ends]
    exact .missing most counts' (target ▸ states) (limit.trans bounded) counted enough shown

/-- What a look decides other than a timeout, it decides by counting. -/
theorem Decides.counts_of_inTime (decides : c.Decides s start k result time) (inTime : InTime result) :
    c.Counts s start k := by
  cases decides with
  | late | cutOff => cases inTime _ rfl
  | failed _ counts | reached _ _ counts | unexpected _ _ counts | absent counts | missing _ counts =>
    exact counts

section Longer

variable (longer : c.budgetNanos start ≤ (c.withTimeout timeout).budgetNanos start)

include longer

/-- A look that counts decides with more time what it decides. -/
theorem decides_withTimeout_iff (counts : c.Counts s start k) :
    (c.withTimeout timeout).Decides s start k result time ↔ c.Decides s start k result time := by
  have counts' := counts.withTimeout longer
  have ends := lookEnd_withTimeout longer counts.begins
  constructor
  · intro decides
    exact decides.of_counts counts' counts ends.symm rfl rfl rfl
  · intro decides
    exact decides.of_counts counts counts' ends rfl rfl rfl

theorem Undecided.withTimeout (undecided : c.Undecided s start k) :
    (c.withTimeout timeout).Undecided s start k := by
  intro result time decides
  have counts : c.Counts s start k := ⟨undecided.begins, undecided.ends⟩
  exact undecided result time ((decides_withTimeout_iff longer counts).mp decides)

/-- What is decided in time is decided in the same way with more time. -/
theorem FirstDecision.withTimeout (first : c.FirstDecision s start k result time)
    (inTime : InTime result) : (c.withTimeout timeout).FirstDecision s start k result time where
  decides :=
    (decides_withTimeout_iff longer (first.decides.counts_of_inTime inTime)).mpr first.decides
  first j low := (first.first j low).withTimeout longer

/-- The looks that are due before the shorter deadline have the same times. -/
theorem looksFrom_withTimeout {n : Nat} (due : ∀ i < n, c.lookTime s start i < c.deadline start) :
    (c.withTimeout timeout).looksFrom s start 0 n = c.looksFrom s start 0 n := by
  apply List.map_congr_left
  intro i made
  have low : i < n := by simpa using made
  rw [lookTime_withTimeout longer (.inl (due i low))]

end Longer

/-! ### The looks of a wait that runs out of time -/

/-- The look at which a wait runs out of time, or the one after it if that has begun, is due at the
deadline or later. -/
theorem Decides.deadline_le_of_expired (decides : c.Decides s start k result time)
    (expired : ¬ InTime result) : c.deadline start ≤ c.lookTime s start (c.begunBy s start k) := by
  cases decides with
  | late begins =>
    rw [begunBy, if_neg (Nat.not_lt.mpr begins)]
    exact begins
  | cutOff begins runs =>
    rw [begunBy, if_pos begins]
    calc
      c.deadline start ≤ c.cutOff start := Clock.le_ceilMilli _
      _ ≤ c.lookEnd s start k := Nat.le_of_lt runs
      _ ≤ c.lookTime s start (k + 1) := c.lookEnd_le_lookTime_succ s start k
  | reached | absent =>
    refine absurd (fun cause same => ?_) expired
    cases same
  | failed | unexpected | missing =>
    refine absurd (fun cause same => ?_) expired
    cases same
    rfl

section Longer

variable (longer : c.budgetNanos start ≤ (c.withTimeout timeout).budgetNanos start)

include longer

/-- With more time, at least as many looks have begun. -/
theorem begunBy_le_withTimeout {k' time' : Nat} {result' : Except (WaitError ε) (Resolution α)}
    (first : c.FirstDecision s start k result time)
    (first' : (c.withTimeout timeout).FirstDecision s start k' result' time') :
    c.begunBy s start k ≤ (c.withTimeout timeout).begunBy s start k' := by
  have later : k ≤ k' := by
    apply Nat.le_of_not_lt
    intro before
    exact (first.first k' before).withTimeout longer _ _ first'.decides
  rcases Nat.lt_or_eq_of_le later with after | rfl
  · calc
      c.begunBy s start k ≤ k + 1 := by
        rw [begunBy]
        split <;> omega
      _ ≤ k' := after
      _ ≤ (c.withTimeout timeout).begunBy s start k' := le_begunBy ..
  · by_cases due : c.lookTime s start k < c.deadline start
    · have due' : (c.withTimeout timeout).lookTime s start k < (c.withTimeout timeout).deadline start := by
        rw [lookTime_withTimeout longer (.inl due)]
        exact Nat.lt_of_lt_of_le due (deadline_le_withTimeout longer)
      rw [begunBy, begunBy, if_pos due, if_pos due']
    · rw [begunBy, if_neg due]
      exact le_begunBy ..

/-- Of a wait that runs out of time, the looks are those that the longer one makes before the deadline. -/
theorem looksFrom_eq_filter {n : Nat} (expired : ¬ InTime result)
    (first : c.FirstDecision s start k result time) (more : c.begunBy s start k ≤ n) :
    c.looksFrom s start 0 (c.begunBy s start k) =
      ((c.withTimeout timeout).looksFrom s start 0 n).filter (fun look => look.1 < c.deadline start) := by
  obtain ⟨rest, rfl⟩ := Nat.exists_eq_add_of_le more
  have late := first.decides.deadline_le_of_expired expired
  have shared : ∀ look ∈ (c.withTimeout timeout).looksFrom s start 0 (c.begunBy s start k),
      look.1 < c.deadline start := by
    intro look made
    obtain ⟨i, low, rfl⟩ := mem_looksFrom.mp made
    exact (lookTime_withTimeout_lt_iff longer).mpr (first.due i low)
  have further : ∀ look ∈ (c.withTimeout timeout).looksFrom s start (c.begunBy s start k) rest,
      ¬ look.1 < c.deadline start := by
    intro look made
    obtain ⟨i, mem, rfl⟩ := List.mem_map.mp made
    have after : c.begunBy s start k ≤ i := (List.mem_range'_1.mp mem).1
    rw [lookTime_withTimeout_lt_iff longer]
    exact Nat.not_lt.mpr (Nat.le_trans late (c.monotone_lookTime s start after))
  have whole : (c.withTimeout timeout).looksFrom s start 0 (c.begunBy s start k + rest) =
      (c.withTimeout timeout).looksFrom s start 0 (c.begunBy s start k) ++
        (c.withTimeout timeout).looksFrom s start (c.begunBy s start k) rest := by
    rw [looksFrom, looksFrom, looksFrom, ← List.map_append, ← List.range'_append_1, Nat.zero_add]
  rw [whole, List.filter_append, List.filter_eq_self.mpr fun look made => decide_eq_true (shared look made),
    List.filter_eq_nil_iff.mpr fun look made => by simpa using further look made, List.append_nil,
    looksFrom_withTimeout longer first.due]

/-- What is decided in time, and the looks up to then, do not depend on the budget. -/
theorem FirstDecision.runOn_withTimeout (positive : 0 < c.pacing.leastPause.nanos)
    (first : c.FirstDecision s start k result time) (inTime : InTime result) :
    (c.withTimeout timeout).runOn s start = c.runOn s start := by
  have counts := first.decides.counts_of_inTime inTime
  have begun : (c.withTimeout timeout).begunBy s start k = c.begunBy s start k := by
    rw [begunBy, begunBy, if_pos counts.begins, if_pos (counts.withTimeout longer).begins]
  rw [first.runOn positive, (first.withTimeout longer inTime).runOn positive, begun,
    looksFrom_withTimeout longer first.due]

end Longer

/-- **A longer budget only extends a wait.** With pauses above zero, a wait by a script comes to a result.
If it has not run out of time, the wait with the longer budget makes the same looks at the same times and
ends with the same result at the same time; if it has, its looks are those that the longer wait makes
before the deadline of the shorter one. -/
theorem longer_budget_extends (c : WaitConfig) (timeout : Duration) (s : Script ε α) (start : Nat)
    (positive : 0 < c.pacing.leastPause.nanos)
    (longer : c.budgetNanos start ≤ (c.withTimeout timeout).budgetNanos start) :
    ∃ result time, (c.runOn s start).result = some (result, time) ∧
      (InTime result → (c.withTimeout timeout).runOn s start = c.runOn s start) ∧
      (¬ InTime result → (c.runOn s start).calls =
        ((c.withTimeout timeout).runOn s start).calls.filter (fun look => look.1 < c.deadline start)) := by
  obtain ⟨k, result, time, first, run⟩ := c.exists_firstDecision s start positive
  obtain ⟨k', result', time', first', run'⟩ := (c.withTimeout timeout).exists_firstDecision s start positive
  refine ⟨result, time, by rw [run], fun inTime => ?_, fun expired => ?_⟩
  · exact first.runOn_withTimeout longer positive inTime
  · rw [run, run']
    exact looksFrom_eq_filter longer expired first (begunBy_le_withTimeout longer first first')

/-- A machine that is seen to be ready after seven milliseconds. Of five milliseconds, the looks are the
first three that are made within ten; with twenty, nothing is different from ten. -/
theorem longer_budget_extends_of_machine :
    let c : WaitConfig :=
      { WaitConfig.ofTimeout (.ofMillis 5) with
        pending := ["Creating"]
        target := ["Ready"]
        pacing := .fibonacci (.ofMillis 1) (.ofMillis 3) }
    let s : Script String Nat := fun
      | 0 | 1 | 2 => ⟨.ok (.found "Creating" 0), .ofMillis 1⟩
      | k => ⟨.ok (.found "Ready" k), .zero⟩
    let longer := c.withTimeout (.ofMillis 10)
    let longest := longer.withTimeout (.ofMillis 20)
    0 < c.pacing.leastPause.nanos ∧ c.budgetNanos 0 ≤ longer.budgetNanos 0 ∧
      longer.budgetNanos 0 ≤ longest.budgetNanos 0 ∧
      (c.runOn s 0).calls = (longer.runOn s 0).calls.filter (fun look => look.1 < c.deadline 0) ∧
      (c.runOn s 0).calls = [(0, ()), (2000000, ()), (4000000, ())] ∧
      longest.runOn s 0 = longer.runOn s 0 ∧
      (longer.runOn s 0).result = some (.ok (.reached 3), 7000000) := by
  intro c s longer longest
  have positive : 0 < c.pacing.leastPause.nanos := by decide
  have more : c.budgetNanos 0 ≤ longer.budgetNanos 0 := by decide
  have most : longer.budgetNanos 0 ≤ longest.budgetNanos 0 := by decide
  have shown : ∀ j < 3, (s j).outcome = .ok (.found "Creating" 0) := by
    intro j low
    interval_cases j <;> rfl
  have undecided : ∀ j < 3, c.Undecided s 0 j := by
    intro j low
    have counts : c.Counts s 0 j := by interval_cases j <;> constructor <;> decide
    exact undecided_of_pending counts (shown j low) (by decide) (by decide)
  have late : c.deadline 0 ≤ c.lookTime s 0 3 := by decide
  have expires : c.FirstDecision s 0 3 _ _ := ⟨.late late, undecided⟩
  have counts : longer.Counts s 0 3 := by constructor <;> decide
  have reaches : longer.FirstDecision s 0 3 (.ok (.reached 3)) (longer.lookEnd s 0 3) :=
    ⟨.reached "Ready" 3 counts rfl (by decide), fun j low => (undecided j low).withTimeout more⟩
  have run := expires.runOn positive
  have run' := reaches.runOn positive
  obtain ⟨result, time, ended, -, cut⟩ := longer_budget_extends c (.ofMillis 10) s 0 positive more
  obtain ⟨result', time', ended', same, -⟩ := longer_budget_extends longer (.ofMillis 20) s 0 positive most
  have expired : ¬ InTime result := by
    intro inTime
    rw [run] at ended
    cases ended
    cases inTime _ rfl
  have inTime : InTime result' := by
    rw [run'] at ended'
    cases ended'
    exact fun cause same => nomatch same
  have ends : longer.lookEnd s 0 3 = 7000000 := by decide
  refine ⟨positive, more, most, cut expired, ?_, same inTime, ?_⟩
  · rw [run]
    decide
  · rw [run', ends]

end WaitConfig

end VirtLifecycle
