/-
Module: VirtLifecycle.Proofs.Wait.Restarts
Purpose: When growing pauses begin again. A wait is followed turn by turn, and the pause that it requests
  after a look is the Fibonacci multiple for the number of pauses since the latest look that showed
  another state than the one seen last. A look that finds nothing is not such a look, and does not hide
  the state seen before it.
Main exports: Script.changes_iff, Script.PausesSince, Script.pausesSince_iff, WaitConfig.Reaches,
  WaitConfig.Reaches.runWithin, WaitConfig.Requests, WaitConfig.Requests.nanos,
  WaitConfig.pauses_restart_on_changes
-/
import VirtLifecycle.Proofs.Wait.Trace

namespace VirtLifecycle

variable {ε α : Type}

namespace Script

variable {s : Script ε α} {k m j : Nat} {state : String}

/-! ### Looks that change the state -/

/-- A look changes the state if it shows one, and the latest look before it that shows one, if there is
any, shows another one. -/
theorem changes_iff :
    s.Changes k ↔ ∃ state, (s k).state? = some state ∧ ∀ m other, s.ShowsLast k m other → other ≠ state := by
  constructor
  · rintro ⟨shows, differs⟩
    obtain ⟨state, shown⟩ := Option.isSome_iff_exists.mp shows
    refine ⟨state, shown, ?_⟩
    rintro m other last rfl
    exact differs (shown.trans (lastState_eq_some_iff.mpr ⟨m, last⟩).symm)
  · rintro ⟨state, shown, differs⟩
    refine ⟨Option.isSome_iff_exists.mpr ⟨state, shown⟩, fun same => ?_⟩
    obtain ⟨m, last⟩ := lastState_eq_some_iff.mp (same.symm.trans shown)
    exact differs m state last rfl

theorem not_changes_of_isMissing (missing : (s k).IsMissing) : ¬ s.Changes k := by
  intro changes
  obtain ⟨state, shown, -⟩ := changes_iff.mp changes
  cases (Look.state?_of_isMissing missing).symm.trans shown

/-- A state that is shown again changes nothing, even if there were looks that show none. -/
theorem not_changes_of_showsLast (last : s.ShowsLast k m state) (again : (s k).state? = some state) :
    ¬ s.Changes k := by
  intro changes
  obtain ⟨other, shown, differs⟩ := changes_iff.mp changes
  cases again.symm.trans shown
  exact differs m state last rfl

/-! ### Pauses since the latest change -/

/-- The pause after look `k` is the `j`-th, counted from one, since the latest look up to `k` that changes
the state, or since the start if none does. -/
inductive PausesSince (s : Script ε α) (k : Nat) : Nat → Prop where
  | change (m : Nat) (upTo : m ≤ k) (changes : s.Changes m)
      (latest : ∀ i, m < i → i ≤ k → ¬ s.Changes i) : PausesSince s k (k - m + 1)
  | opening (unchanged : ∀ i ≤ k, ¬ s.Changes i) : PausesSince s k (k + 1)

theorem pausesBefore_of_unchanged (upTo : m ≤ k) (unchanged : ∀ i, m ≤ i → i < k → ¬ s.Changes i) :
    s.pausesBefore k = s.pausesBefore m + (k - m) := by
  induction k, upTo using Nat.le_induction with
  | base => rw [Nat.sub_self, Nat.add_zero]
  | succ k upTo ih =>
    have before := ih fun i after low => unchanged i after (Nat.lt_succ_of_lt low)
    rw [pausesBefore, if_neg (unchanged k upTo (Nat.lt_succ_self k)), before, Nat.succ_sub upTo]
    rfl

/-- The count begins anew at a look that changes the state. -/
theorem PausesSince.of_changes (changes : s.Changes k) : s.PausesSince k 1 := by
  have now : s.PausesSince k (k - k + 1) :=
    .change k (Nat.le_refl k) changes fun i after upTo => absurd after (Nat.not_lt.mpr upTo)
  rwa [Nat.sub_self] at now

/-- It goes on at a look that does not. -/
theorem PausesSince.succ (since : s.PausesSince k j) (unchanged : ¬ s.Changes (k + 1)) :
    s.PausesSince (k + 1) (j + 1) := by
  cases since with
  | change m upTo changed latest =>
    have later : s.PausesSince (k + 1) (k + 1 - m + 1) := by
      refine .change m (Nat.le_succ_of_le upTo) changed fun i after low => ?_
      rcases Nat.lt_or_eq_of_le low with before | rfl
      · exact latest i after (Nat.le_of_lt_succ before)
      · exact unchanged
    rwa [Nat.succ_sub upTo] at later
  | opening before =>
    refine .opening fun i low => ?_
    rcases Nat.lt_or_eq_of_le low with earlier | rfl
    · exact before i (Nat.le_of_lt_succ earlier)
    · exact unchanged

theorem pausesSince_pausesBefore (s : Script ε α) (k : Nat) : s.PausesSince k (s.pausesBefore (k + 1)) := by
  rw [pausesBefore]
  by_cases changes : s.Changes k
  · rw [if_pos changes]
    exact .of_changes changes
  · rw [if_neg changes]
    cases k with
    | zero => exact .opening fun i upTo => Nat.le_zero.mp upTo ▸ changes
    | succ k => exact (pausesSince_pausesBefore s k).succ changes

/-- There is one such number for each look, and it is the one that the pauses go by. -/
theorem pausesSince_iff : s.PausesSince k j ↔ s.pausesBefore (k + 1) = j := by
  constructor
  · intro since
    cases since with
    | change m upTo changes latest =>
      have first : s.pausesBefore (m + 1) = 1 := by rw [pausesBefore, if_pos changes]
      rw [pausesBefore_of_unchanged (Nat.succ_le_succ upTo) fun i after low =>
        latest i after (Nat.le_of_lt_succ low), first]
      omega
    | opening unchanged =>
      rw [pausesBefore_of_unchanged (Nat.zero_le _) fun i _ low => unchanged i (Nat.le_of_lt_succ low),
        pausesBefore, Nat.zero_add, Nat.sub_zero]
  · rintro rfl
    exact s.pausesSince_pausesBefore k

/-- While the state does not change, each look uses up one more pause. -/
theorem PausesSince.of_unchanged (since : s.PausesSince m j) (upTo : m ≤ k)
    (unchanged : ∀ i, m < i → i ≤ k → ¬ s.Changes i) : s.PausesSince k (j + (k - m)) := by
  rw [pausesSince_iff] at since ⊢
  rw [pausesBefore_of_unchanged (Nat.succ_le_succ upTo) fun i after low =>
    unchanged i after (Nat.le_of_lt_succ low), since, Nat.succ_sub_succ]

end Script

namespace WaitConfig

variable {c : WaitConfig} {s : Script ε α} {start k : Nat} {p q : Progress} {d : Duration}

/-! ### A wait turn by turn -/

/-- A wait by the script comes to look `k`, and is then this far. -/
inductive Reaches (c : WaitConfig) (s : Script ε α) (start : Nat) : Nat → Progress → Prop where
  | opening : Reaches c s start 0 (c.opening start)
  | next {k : Nat} {p q : Progress} (reached : Reaches c s start k p) (due : p.now < c.deadline start)
      (goesOn : c.turn (c.deadline start) p (s k).outcome (s k).takes = .goOn q) :
      Reaches c s start (k + 1) (pause (c.deadline start) q)

/-- After look `k`, which does not end it, the wait requests a pause of this length. -/
inductive Requests (c : WaitConfig) (s : Script ε α) (start k : Nat) : Duration → Prop where
  | after {p q : Progress} (reached : c.Reaches s start k p) (due : p.now < c.deadline start)
      (goesOn : c.turn (c.deadline start) p (s k).outcome (s k).takes = .goOn q) :
      Requests c s start k q.schedule.next.1

/-- Along a wait, what it remembers is what its script says. -/
theorem Reaches.atLook (reached : c.Reaches s start k p) : c.AtLook s start k p := by
  induction reached with
  | opening => exact c.atLook_opening s start
  | next _ due goesOn ih =>
    have verdict := ih.turn (ih.now ▸ due)
    rw [goesOn] at verdict
    exact verdict.2.pause

/-- A look after which the wait goes on decides nothing. -/
theorem Reaches.of_goOn (reached : c.Reaches s start k p) (due : p.now < c.deadline start)
    (goesOn : c.turn (c.deadline start) p (s k).outcome (s k).takes = .goOn q) :
    c.Undecided s start k ∧ c.AfterLook s start k q := by
  have verdict := reached.atLook.turn (reached.atLook.now ▸ due)
  rwa [goesOn] at verdict

theorem Reaches.exists_goOn (reached : c.Reaches s start k p) (undecided : c.Undecided s start k) :
    p.now < c.deadline start ∧
      ∃ q, c.turn (c.deadline start) p (s k).outcome (s k).takes = .goOn q := by
  have verdict := reached.atLook.turn undecided.begins
  refine ⟨reached.atLook.now ▸ undecided.begins, ?_⟩
  cases told : c.turn (c.deadline start) p (s k).outcome (s k).takes with
  | stop result time =>
    rw [told] at verdict
    exact absurd verdict (undecided result time)
  | goOn q => exact ⟨q, rfl⟩

theorem Reaches.undecided (reached : c.Reaches s start k p) : ∀ i < k, c.Undecided s start i := by
  induction reached with
  | opening => exact fun i low => absurd low (Nat.not_lt_zero i)
  | next reached due goesOn ih =>
    intro i low
    rcases Nat.lt_succ_iff_lt_or_eq.mp low with before | rfl
    · exact ih i before
    · exact (reached.of_goOn due goesOn).1

/-- A wait comes to every look before which none decides anything. -/
theorem exists_reaches (undecided : ∀ i < k, c.Undecided s start i) : ∃ p, c.Reaches s start k p := by
  induction k with
  | zero => exact ⟨_, .opening⟩
  | succ k ih =>
    obtain ⟨p, reached⟩ := ih fun i low => undecided i (Nat.lt_succ_of_lt low)
    obtain ⟨due, q, goesOn⟩ := reached.exists_goOn (undecided k (Nat.lt_succ_self k))
    exact ⟨_, .next reached due goesOn⟩

/-- The run of a wait that comes to look `k` consists of the looks before it and the run from there on. -/
theorem Reaches.runWithin (reached : c.Reaches s start k p) (turns : Nat) :
    c.runWithin (k + turns) s start =
      let rest := (c.loop Probe.plain (c.deadline start) turns p).run s.respond k
      ⟨rest.result, c.looksFrom s start 0 k ++ rest.calls, rest.final⟩ := by
  induction reached generalizing turns with
  | opening =>
    rw [Nat.zero_add]
    rfl
  | @next k p q reached due goesOn ih =>
    have oneMore : c.looksFrom s start 0 (k + 1) = c.looksFrom s start 0 k ++ [(p.now, ())] := by
      rw [looksFrom, looksFrom, List.range'_concat, List.map_append, reached.atLook.now]
      simp
    rw [Nat.add_right_comm, Nat.add_assoc, ih (turns + 1), run_scripted_of_goOn turns due goesOn, oneMore]
    simp only [Plan.Run.result_after, Plan.Run.calls_after, Plan.Run.final_after, List.append_assoc,
      List.singleton_append]

/-! ### The pauses that are requested -/

/-- A pause is requested after every look up to which nothing is decided, and after no other. -/
theorem exists_requests_iff : (∃ d, c.Requests s start k d) ↔ ∀ i ≤ k, c.Undecided s start i := by
  constructor
  · rintro ⟨d, reached, due, goesOn⟩ i upTo
    rcases Nat.lt_or_eq_of_le upTo with before | rfl
    · exact reached.undecided i before
    · exact (reached.of_goOn due goesOn).1
  · intro undecided
    obtain ⟨p, reached⟩ := exists_reaches fun i low => undecided i (Nat.le_of_lt low)
    obtain ⟨due, q, goesOn⟩ := reached.exists_goOn (undecided k (Nat.le_refl k))
    exact ⟨_, .after reached due goesOn⟩

theorem Requests.nanos (requests : c.Requests s start k d) : d.nanos = c.pauseAfter s k := by
  cases requests with
  | after reached due goesOn =>
    rw [(reached.of_goOn due goesOn).2.schedule, Schedule.nanos_next_afterPauses]
    rfl

/-- Growing pauses go by the number of pauses since the latest change. -/
theorem Requests.nanos_of_pausesSince {least most : Duration} {j : Nat}
    (requests : c.Requests s start k d) (paced : c.pacing = .fibonacci least most)
    (since : s.PausesSince k j) : d.nanos = min (Nat.fib j * least.nanos) most.nanos := by
  rw [requests.nanos, pauseAfter, paced, Script.pausesSince_iff.mp since, Pacing.pauseNanos]

/-- Between two looks that are made, the wait sleeps for the pause that it has requested. -/
theorem exists_requests_of_calls {turns time next : Nat}
    (made : (c.runWithin turns s start).calls[k]? = some (time, ()))
    (madeNext : (c.runWithin turns s start).calls[k + 1]? = some (next, ())) :
    ∃ d, c.Requests s start k d ∧
      next = Clock.sleepUntil ((s k).overAt time) ((s k).overAt time + d.nanos) := by
  obtain ⟨n, calls, due, undecided⟩ := (c.runWithin_comesTo turns s start).calls
  rw [calls, getElem?_looksFrom] at made madeNext
  obtain ⟨-, rfl⟩ := made
  obtain ⟨low, rfl⟩ := madeNext
  obtain ⟨d, requests⟩ := exists_requests_iff.mpr fun i upTo =>
    undecided i (Nat.lt_of_le_of_lt (Nat.succ_le_succ upTo) low)
  refine ⟨d, requests, ?_⟩
  have pause := c.lookEnd_add_pause_le_lookTime s start (due (k + 1) low)
  have uncut : min (c.lookEnd s start k + c.pauseAfter s k) (c.deadline start) =
      c.lookEnd s start k + c.pauseAfter s k :=
    Nat.min_eq_left (Nat.le_of_lt (Nat.lt_of_le_of_lt pause (due (k + 1) low)))
  rw [lookTime_succ, uncut, requests.nanos]
  rfl

/-- **Growing pauses begin again exactly when the state changes.** In a wait with growing pauses, a pause
is requested after each look that does not end it, and its length is the Fibonacci multiple for the number
of pauses since the latest look that changed the state, or since the start. Looks that find nothing use up
pauses; they do not let them begin again, and the same state before and after them is no change. The wait
sleeps for what it has requested: where it comes to a look, its run is that of the looks before and of the
loop from there on, and the next look begins when the pause after this one is over. -/
theorem pauses_restart_on_changes (c : WaitConfig) (s : Script ε α) (start : Nat) {least most : Duration}
    (paced : c.pacing = .fibonacci least most) :
    (∀ k, (∃ d, c.Requests s start k d) ↔ ∀ i ≤ k, c.Undecided s start i) ∧
      (∀ k d, c.Requests s start k d → (∃ j, s.PausesSince k j) ∧
        ∀ j, s.PausesSince k j → d.nanos = min (Nat.fib j * least.nanos) most.nanos) ∧
      (∀ m k j d, m ≤ k → (∀ i, m < i → i ≤ k → (s i).IsMissing) → s.PausesSince m j →
        c.Requests s start k d → d.nanos = min (Nat.fib (j + (k - m)) * least.nanos) most.nanos) ∧
      (∀ m k j d state, m < k → (s m).state? = some state → (s k).state? = some state →
        (∀ i, m < i → i < k → (s i).IsMissing) → s.PausesSince m j →
        c.Requests s start k d → d.nanos = min (Nat.fib (j + (k - m)) * least.nanos) most.nanos) ∧
      (∀ turns k time next, (c.runWithin turns s start).calls[k]? = some (time, ()) →
        (c.runWithin turns s start).calls[k + 1]? = some (next, ()) →
        ∃ d, c.Requests s start k d ∧
          next = Clock.sleepUntil ((s k).overAt time) ((s k).overAt time + d.nanos)) ∧
      ∀ turns k p, c.Reaches s start k p → c.runWithin (k + turns) s start =
        let rest := (c.loop Probe.plain (c.deadline start) turns p).run s.respond k
        ⟨rest.result, c.looksFrom s start 0 k ++ rest.calls, rest.final⟩ := by
  refine ⟨fun k => exists_requests_iff, fun k d requests => ⟨⟨_, s.pausesSince_pausesBefore k⟩, ?_⟩, ?_, ?_,
    fun turns k time next => exists_requests_of_calls, fun turns k p reached => reached.runWithin turns⟩
  · intro j since
    exact requests.nanos_of_pausesSince paced since
  · intro m k j d upTo missing since requests
    have unchanged : ∀ i, m < i → i ≤ k → ¬ s.Changes i :=
      fun i after low => Script.not_changes_of_isMissing (missing i after low)
    exact requests.nanos_of_pausesSince paced (since.of_unchanged upTo unchanged)
  · intro m k j d state before shown again missing since requests
    have last : s.ShowsLast k m state :=
      ⟨before, shown, fun i after low => Look.state?_of_isMissing (missing i after low)⟩
    have unchanged : ∀ i, m < i → i ≤ k → ¬ s.Changes i := by
      intro i after upTo
      rcases Nat.lt_or_eq_of_le upTo with low | rfl
      · exact Script.not_changes_of_isMissing (missing i after low)
      · exact Script.not_changes_of_showsLast last again
    exact requests.nanos_of_pausesSince paced (since.of_unchanged (Nat.le_of_lt before) unchanged)

/-- A machine that is being created, is missing once, is still being created and then starts. The third
pause is twice as long as the first two, and the fourth as long as the first. -/
theorem pauses_restart_on_changes_of_machine :
    let c : WaitConfig :=
      { WaitConfig.ofTimeout (.ofMillis 10) with
        pending := ["Creating", "Starting"]
        target := ["Ready"]
        pacing := .fibonacci (.ofMillis 1) (.ofMillis 3) }
    let s : Script String Nat := fun
      | 0 | 2 => ⟨.ok (.found "Creating" 0), .zero⟩
      | 1 => ⟨.ok .missing, .zero⟩
      | k => ⟨.ok (.found "Starting" k), .zero⟩
    c.pacing = .fibonacci (.ofMillis 1) (.ofMillis 3) ∧
      ∃ third fourth, c.Requests s 0 2 third ∧ third.nanos = 2000000 ∧
        c.Requests s 0 3 fourth ∧ fourth.nanos = 1000000 := by
  intro c s
  have paced : c.pacing = .fibonacci (.ofMillis 1) (.ofMillis 3) := rfl
  obtain ⟨requested, lengths, -, again, -⟩ := pauses_restart_on_changes c s 0 paced
  have counts : ∀ j ≤ 3, c.Counts s 0 j := by
    intro j low
    interval_cases j <;> constructor <;> decide
  have undecided : ∀ j ≤ 3, c.Undecided s 0 j := by
    intro j low
    interval_cases j
    · exact undecided_of_pending (counts 0 (by decide)) rfl (by decide) (by decide)
    · exact undecided_of_tolerated (counts 1 (by decide)) rfl (by decide) fun limit bounded => nomatch bounded
    · exact undecided_of_pending (counts 2 (by decide)) rfl (by decide) (by decide)
    · exact undecided_of_pending (counts 3 (by decide)) rfl (by decide) (by decide)
  obtain ⟨third, atThird⟩ := (requested 2).mpr fun i low => undecided i (Nat.le_succ_of_le low)
  obtain ⟨fourth, atFourth⟩ := (requested 3).mpr undecided
  have sinceFirst : s.PausesSince 0 1 := Script.pausesSince_iff.mpr (by decide)
  have sinceFourth : s.PausesSince 3 1 := Script.pausesSince_iff.mpr (by decide)
  have gap : ∀ i, 0 < i → i < 2 → (s i).IsMissing := by
    intro i after low
    interval_cases i
    trivial
  refine ⟨paced, third, fourth, atThird, ?_, atFourth, ?_⟩
  · exact again 0 2 1 third "Creating" (by decide) rfl rfl gap sinceFirst atThird
  · exact (lengths 3 fourth atFourth).2 1 sinceFourth

end WaitConfig

end VirtLifecycle
