/-
Module: VirtLifecycle.Proofs.Wait.Trace
Purpose: What a whole wait comes to. It makes the looks of its script one by one at their times, up to
  the first that decides anything, and ends with what that one decides. With pauses above zero the
  time runs out at the latest, so every wait ends.
Main exports: WaitConfig.ComesTo, WaitConfig.run_loop, WaitConfig.runWithin_comesTo,
  WaitConfig.wait_ends_at_first_decision
-/
import Mathlib.Tactic.IntervalCases
import VirtLifecycle.Proofs.Wait.Decision
import VirtLifecycle.Proofs.Wait.Times

namespace VirtLifecycle.WaitConfig

variable {ε α : Type} {c : WaitConfig} {s : Script ε α} {start k : Nat} {p : Progress}

/-- The `n` looks from look `k` on, with their times. -/
def looksFrom (c : WaitConfig) (s : Script ε α) (start k n : Nat) : List (Nat × Unit) :=
  (List.range' k n).map fun i => (c.lookTime s start i, ())

theorem length_looksFrom (c : WaitConfig) (s : Script ε α) (start k n : Nat) :
    (c.looksFrom s start k n).length = n := by
  rw [looksFrom, List.length_map, List.length_range']

theorem getElem?_looksFrom {n i time : Nat} :
    (c.looksFrom s start 0 n)[i]? = some (time, ()) ↔ i < n ∧ c.lookTime s start i = time := by
  rw [looksFrom, List.getElem?_map]
  by_cases low : i < n
  · simp [low]
  · simp [low]

theorem mem_looksFrom {n : Nat} {call : Nat × Unit} :
    call ∈ c.looksFrom s start 0 n ↔ ∃ i < n, (c.lookTime s start i, ()) = call := by
  simp [looksFrom]

/-- How many looks have begun when look `k` decides: it is one of them unless it is too late. -/
def begunBy (c : WaitConfig) (s : Script ε α) (start k : Nat) : Nat :=
  if c.lookTime s start k < c.deadline start then k + 1 else k

theorem le_begunBy (c : WaitConfig) (s : Script ε α) (start k : Nat) : k ≤ c.begunBy s start k := by
  rw [begunBy]
  split <;> omega

/-- All looks that have begun when a wait ends are due before the deadline. -/
theorem FirstDecision.due (first : c.FirstDecision s start k result time) :
    ∀ i < c.begunBy s start k, c.lookTime s start i < c.deadline start := by
  intro i low
  rw [begunBy] at low
  split at low
  · rename_i due
    rcases Nat.lt_succ_iff_lt_or_eq.mp low with before | rfl
    · exact (first.first i before).begins
    · exact due
  · exact (first.first i low).begins

/-- What a wait comes to from look `k` on within so many turns. -/
inductive ComesTo (c : WaitConfig) (s : Script ε α) (start k turns : Nat) :
    Plan.Run Unit Nat (Except (WaitError ε) (Resolution α) × Nat) → Prop where
  /-- it ends at the first look that decides anything -/
  | ended {m n time : Nat} {result : Except (WaitError ε) (Resolution α)} (later : k ≤ m)
      (decides : c.Decides s start m result time)
      (first : ∀ j, k ≤ j → j < m → c.Undecided s start j)
      (begun : k + n = c.begunBy s start m) :
      ComesTo c s start k turns ⟨some (result, time), c.looksFrom s start k n, k + n⟩
  /-- no look so far decides anything, and there is time for another one -/
  | unfinished (due : c.lookTime s start (k + turns) < c.deadline start)
      (undecided : ∀ j, k ≤ j → j < k + turns → c.Undecided s start j) :
      ComesTo c s start k turns ⟨none, c.looksFrom s start k turns, k + turns⟩

/-- An undecided look comes before the rest of a wait. -/
theorem ComesTo.after {turns : Nat}
    {run : Plan.Run Unit Nat (Except (WaitError ε) (Resolution α) × Nat)}
    (undecided : c.Undecided s start k) (rest : c.ComesTo s start (k + 1) turns run) :
    c.ComesTo s start k (turns + 1) (run.after (c.lookTime s start k, ())) := by
  have extend : ∀ m, (∀ j, k + 1 ≤ j → j < m → c.Undecided s start j) →
      ∀ j, k ≤ j → j < m → c.Undecided s start j := by
    intro m others j low high
    rcases Nat.eq_or_lt_of_le low with rfl | above
    · exact undecided
    · exact others j above high
  cases rest with
  | @ended m n time result later decides first begun =>
    have count : k + (n + 1) = c.begunBy s start m := by omega
    have whole : c.ComesTo s start k (turns + 1)
        ⟨some (result, time), c.looksFrom s start k (n + 1), k + (n + 1)⟩ :=
      .ended (Nat.le_of_succ_le later) decides (extend m first) count
    rwa [← Nat.add_assoc, Nat.add_right_comm] at whole
  | unfinished due others =>
    have turnsEq : k + 1 + turns = k + (turns + 1) := by omega
    rw [turnsEq] at due others ⊢
    exact .unfinished due (extend _ others)

/-- A look that would be late is not made. -/
theorem comesTo_of_late (turns : Nat) (late : c.deadline start ≤ c.lookTime s start k) :
    c.ComesTo s start k turns
      ⟨some (.error (c.timedOut (s.lastState k)), c.lookTime s start k), [], k⟩ := by
  have noMore : k + 0 = c.begunBy s start k := by
    rw [begunBy, if_neg (Nat.not_lt.mpr late), Nat.add_zero]
  exact .ended (Nat.le_refl k) (.late late) (fun j low high => absurd low (Nat.not_le.mpr high))
    noMore

/-- A look that decides is the last one. -/
theorem comesTo_of_decides (turns : Nat) (due : c.lookTime s start k < c.deadline start)
    {result : Except (WaitError ε) (Resolution α)} {time : Nat}
    (decides : c.Decides s start k result time) :
    c.ComesTo s start k turns ⟨some (result, time), [(c.lookTime s start k, ())], k + 1⟩ := by
  have oneMore : k + 1 = c.begunBy s start k := by rw [begunBy, if_pos due]
  exact .ended (Nat.le_refl k) decides (fun j low high => absurd low (Nat.not_le.mpr high)) oneMore

/-- The run of a wait from any look on. -/
theorem run_loop (turns : Nat) (h : c.AtLook s start k p) :
    c.ComesTo s start k turns
      ((c.loop Probe.plain (c.deadline start) turns p).run s.respond k) := by
  induction turns generalizing k p with
  | zero =>
    by_cases due : p.now < c.deadline start
    · rw [run_loop_of_noTurns due]
      exact .unfinished (h.now ▸ due) fun j low high => absurd low (Nat.not_le.mpr high)
    · have late := Nat.le_of_not_lt due
      rw [run_loop_of_late 0 late, h.now, h.lastState]
      exact comesTo_of_late 0 (h.now ▸ late)
  | succ turns ih =>
    by_cases due : p.now < c.deadline start
    · have verdict := h.turn (h.now ▸ due)
      cases told : c.turn (c.deadline start) p (s k).outcome (s k).takes with
      | stop result time =>
        rw [told] at verdict
        rw [run_scripted_of_stop turns due told, h.now]
        exact comesTo_of_decides _ (h.now ▸ due) verdict
      | goOn q =>
        rw [told] at verdict
        obtain ⟨undecided, remembered⟩ := verdict
        rw [run_scripted_of_goOn turns due told, h.now]
        exact (ih remembered.pause).after undecided
    · have late := Nat.le_of_not_lt due
      rw [run_loop_of_late _ late, h.now, h.lastState]
      exact comesTo_of_late _ (h.now ▸ late)

/-- All looks that a wait makes are due before the deadline, and all but the last decide nothing. -/
theorem ComesTo.calls {turns : Nat}
    {run : Plan.Run Unit Nat (Except (WaitError ε) (Resolution α) × Nat)}
    (whole : c.ComesTo s start 0 turns run) :
    ∃ n, run.calls = c.looksFrom s start 0 n ∧
      (∀ i < n, c.lookTime s start i < c.deadline start) ∧
      ∀ i, i + 1 < n → c.Undecided s start i := by
  cases whole with
  | @ended m n time result later decides first begun =>
    have decided : c.FirstDecision s start m result time :=
      ⟨decides, fun j low => first j (Nat.zero_le j) low⟩
    rw [Nat.zero_add] at begun
    refine ⟨n, rfl, begun ▸ decided.due, fun i low => first i (Nat.zero_le i) ?_⟩
    rw [begunBy] at begun
    split at begun <;> omega
  | unfinished due undecided =>
    rw [Nat.zero_add] at undecided
    refine ⟨turns, rfl, ?_, ?_⟩
    · intro i low
      exact (undecided i (Nat.zero_le i) low).begins
    · intro i low
      exact undecided i (Nat.zero_le i) (Nat.lt_of_succ_lt low)

/-- A first look that is due in time is made. -/
theorem ComesTo.head?_calls {turns : Nat} (allowed : 0 < turns)
    (due : c.lookTime s start 0 < c.deadline start)
    {run : Plan.Run Unit Nat (Except (WaitError ε) (Resolution α) × Nat)}
    (whole : c.ComesTo s start 0 turns run) :
    run.calls[0]? = some (c.lookTime s start 0, ()) := by
  cases whole with
  | @ended m n time result later decides first begun =>
    have oneMore : 0 < n := by
      rw [Nat.zero_add, begunBy] at begun
      cases m with
      | zero =>
        rw [if_pos due] at begun
        omega
      | succ m => split at begun <;> omega
    exact getElem?_looksFrom.mpr ⟨oneMore, rfl⟩
  | unfinished due undecided => exact getElem?_looksFrom.mpr ⟨allowed, rfl⟩

/-- What a wait ends with is what the first look that decides anything decides, and the looks up to that
one have been made. -/
theorem ComesTo.exists_firstDecision_of_ended {turns time : Nat}
    {result : Except (WaitError ε) (Resolution α)}
    {run : Plan.Run Unit Nat (Except (WaitError ε) (Resolution α) × Nat)}
    (whole : c.ComesTo s start 0 turns run) (ended : run.result = some (result, time)) :
    ∃ k, c.FirstDecision s start k result time ∧
      run.calls = c.looksFrom s start 0 (c.begunBy s start k) := by
  cases whole with
  | @ended m n _ _ later decides first begun =>
    cases ended
    rw [Nat.zero_add] at begun
    exact ⟨m, ⟨decides, fun j low => first j (Nat.zero_le j) low⟩, by rw [begun]⟩
  | unfinished due undecided => cases ended

theorem ComesTo.firstDecision {turns time : Nat} {result : Except (WaitError ε) (Resolution α)}
    {run : Plan.Run Unit Nat (Except (WaitError ε) (Resolution α) × Nat)}
    (whole : c.ComesTo s start 0 turns run) (ended : run.result = some (result, time)) :
    ∃ k, c.FirstDecision s start k result time := by
  obtain ⟨k, first, -⟩ := whole.exists_firstDecision_of_ended ended
  exact ⟨k, first⟩

/-- What a wait by a script comes to within so many turns. -/
theorem runWithin_comesTo (c : WaitConfig) (turns : Nat) (s : Script ε α) (start : Nat) :
    c.ComesTo s start 0 turns (c.runWithin turns s start) :=
  run_loop turns (atLook_opening c s start)

/-- A wait with pauses above zero ends: by the time it runs out of turns it has run out of time. -/
theorem exists_firstDecision (c : WaitConfig) (s : Script ε α) (start : Nat)
    (positive : 0 < c.pacing.leastPause.nanos) :
    ∃ k result time, c.FirstDecision s start k result time ∧
      c.runOn s start =
        ⟨some (result, time), c.looksFrom s start 0 (c.begunBy s start k), c.begunBy s start k⟩ := by
  have timeIsUp := c.deadline_le_lookTime_enoughTurns s start positive
  have whole := c.runWithin_comesTo (c.enoughTurns start) s start
  change c.ComesTo s start 0 (c.enoughTurns start) (c.runOn s start) at whole
  generalize c.runOn s start = run at whole ⊢
  cases whole with
  | @ended m n time result _ decides first begun =>
    rw [Nat.zero_add] at begun ⊢
    exact ⟨m, result, time, ⟨decides, fun j high => first j (Nat.zero_le j) high⟩, by rw [begun]⟩
  | unfinished due _ =>
    rw [Nat.zero_add] at due
    exact absurd timeIsUp (Nat.not_le.mpr due)

/-- With pauses above zero a wait makes the looks up to the first one that decides anything. -/
theorem FirstDecision.runOn {time : Nat} {result : Except (WaitError ε) (Resolution α)}
    (first : c.FirstDecision s start k result time) (positive : 0 < c.pacing.leastPause.nanos) :
    c.runOn s start =
      ⟨some (result, time), c.looksFrom s start 0 (c.begunBy s start k), c.begunBy s start k⟩ := by
  obtain ⟨k', result', time', first', run⟩ := c.exists_firstDecision s start positive
  obtain ⟨rfl, rfl, rfl⟩ := first.unique first'
  exact run

/-- A wait with pauses above zero ends at the first look of its script that decides anything, and
with what that one decides. It has made the looks before it, at their times, and that one unless it
was too late for it. -/
theorem wait_ends_at_first_decision (c : WaitConfig) (s : Script ε α) (start : Nat)
    (positive : 0 < c.pacing.leastPause.nanos) :
    (∃ k result time, c.FirstDecision s start k result time) ∧
      ∀ k result time, c.FirstDecision s start k result time →
        c.runOn s start =
          ⟨some (result, time), c.looksFrom s start 0 (c.begunBy s start k),
            c.begunBy s start k⟩ := by
  obtain ⟨k, result, time, first, run⟩ := c.exists_firstDecision s start positive
  refine ⟨⟨k, result, time, first⟩, ?_⟩
  intro k' result' time' first'
  obtain ⟨rfl, rfl, rfl⟩ := first.unique first'
  exact run

/-- A machine that is being created, is missing once and is then ready. -/
theorem wait_ends_at_third_look :
    let c : WaitConfig :=
      { WaitConfig.ofTimeout (.ofMillis 10) with
        pending := ["Creating"]
        target := ["Ready"]
        pacing := .fibonacci (.ofMillis 1) (.ofMillis 3)
        missingLimit := some 1 }
    let s : Script String Nat := fun
      | 0 => ⟨.ok (.found "Creating" 0), .ofMillis 1⟩
      | 1 => ⟨.ok .missing, .ofMillis 1⟩
      | k => ⟨.ok (.found "Ready" k), .ofMillis 1⟩
    0 < c.pacing.leastPause.nanos ∧
      c.runOn s 0 =
        ⟨some (.ok (.reached 2), 5000000), [(0, ()), (2000000, ()), (4000000, ())], 3⟩ := by
  intro c s
  have positive : 0 < c.pacing.leastPause.nanos := by decide
  have counts : ∀ k ≤ 2, c.Counts s 0 k := by
    intro k low
    interval_cases k <;> constructor <;> decide
  have first : c.FirstDecision s 0 2 (.ok (.reached 2)) (c.lookEnd s 0 2) := by
    refine ⟨.reached "Ready" 2 (counts 2 (by decide)) rfl (by decide), fun j low => ?_⟩
    interval_cases j
    · exact undecided_of_pending (counts 0 (by decide)) rfl (by decide) (by decide)
    · refine undecided_of_tolerated (counts 1 (by decide)) rfl (by decide) fun limit bounded => ?_
      cases bounded
      decide
  have ends : c.lookEnd s 0 2 = 5000000 := by decide
  have begun : c.begunBy s 0 2 = 3 := by decide
  have looks : c.looksFrom s 0 0 3 = [(0, ()), (2000000, ()), (4000000, ())] := by decide
  refine ⟨positive, ?_⟩
  rw [(wait_ends_at_first_decision c s 0 positive).2 2 _ _ first, ends, begun, looks]

/-- A look that is still running at the deadline, a millisecond and a half after the start, but not when
the timer of the deadline fires half a millisecond later. It is not cut off, and its target state counts. -/
theorem wait_outlasts_deadline :
    let c : WaitConfig := { WaitConfig.ofTimeout (.ofNanos 1500000) with target := ["Ready"] }
    let s : Script String Nat := fun _ => ⟨.ok (.found "Ready" 1), .ofNanos 1600000⟩
    0 < c.pacing.leastPause.nanos ∧ c.lookTime s 0 0 < c.deadline 0 ∧ c.deadline 0 < c.lookEnd s 0 0 ∧
      c.runOn s 0 = ⟨some (.ok (.reached 1), 2000000), [(0, ())], 1⟩ := by
  intro c s
  have positive : 0 < c.pacing.leastPause.nanos := by decide
  have due : c.lookTime s 0 0 < c.deadline 0 := by decide
  have counts : c.Counts s 0 0 := ⟨due, by decide⟩
  have first : c.FirstDecision s 0 0 (.ok (.reached 1)) (c.lookEnd s 0 0) :=
    ⟨.reached "Ready" 1 counts rfl (by decide), fun j before => absurd before (Nat.not_lt_zero j)⟩
  have ends : c.lookEnd s 0 0 = 2000000 := by decide
  have begun : c.begunBy s 0 0 = 1 := by decide
  have looks : c.looksFrom s 0 0 1 = [(0, ())] := by decide
  refine ⟨positive, due, by decide, ?_⟩
  rw [first.runOn positive, ends, begun, looks]

end VirtLifecycle.WaitConfig
