/-
Module: VirtLifecycle.Proofs.Wait.LastState
Purpose: What the error of a wait tells of the states that the wait has seen. An error that carries a
  state, which is one for time that has run out or for an unexpected state, carries the one seen last.
  The other errors carry none, whatever has been seen.
Main exports: WaitConfig.Sees, WaitConfig.SeesLast, WaitError.CarriesState, WaitConfig.TellsLastState,
  WaitConfig.last_state_told_if_carried, WaitConfig.last_state_forgotten
-/
import VirtLifecycle.Proofs.Wait.Trace

namespace VirtLifecycle

variable {ε α : Type}

/-- No state has been seen exactly if no look shows one. -/
theorem Script.lastState_eq_none_iff {s : Script ε α} {k : Nat} :
    s.lastState k = none ↔ ∀ i < k, (s i).state? = none := by
  induction k with
  | zero => exact ⟨fun _ i low => absurd low (Nat.not_lt_zero i), fun _ => rfl⟩
  | succ k ih => rw [lastState, Option.or_eq_none_iff, ih, Nat.forall_lt_succ_right, and_comm]

/-- The error is one of those that hold a state. -/
def WaitError.CarriesState : WaitError ε → Prop
  | timeout _ _ _ | unexpected _ _ _ => True
  | probe _ | missing _ => False

theorem WaitError.lastState_of_not_carriesState {e : WaitError ε} (without : ¬ e.CarriesState) :
    e.lastState = none := by
  cases e with
  | timeout | unexpected => exact absurd trivial without
  | probe | missing => rfl

namespace WaitConfig

/-- A run of a wait. -/
abbrev Run (ε α : Type) := Plan.Run Unit Nat (Except (WaitError ε) (Resolution α) × Nat)

variable {c : WaitConfig} {s : Script ε α} {start k m i time turns : Nat} {state : String}
  {run : Run ε α} {e : WaitError ε}

/-- The run makes look `i` and sees what it shows: the look is over before it would be cut off. -/
structure Sees (c : WaitConfig) (s : Script ε α) (start : Nat) (run : Run ε α) (i : Nat) : Prop where
  made : i < run.calls.length
  inTime : c.lookEnd s start i ≤ c.cutOff start

/-- Of the looks that the run sees, look `m` is the latest that shows a state. -/
structure SeesLast (c : WaitConfig) (s : Script ε α) (start : Nat) (run : Run ε α) (m : Nat)
    (state : String) : Prop where
  sees : c.Sees s start run m
  shown : (s m).state? = some state
  quiet : ∀ i, m < i → c.Sees s start run i → (s i).state? = none

/-- The error tells the state that the run has seen last, and none only if the run has seen none. -/
structure TellsLastState (c : WaitConfig) (s : Script ε α) (start : Nat) (run : Run ε α)
    (e : WaitError ε) : Prop where
  told : ∀ state, e.lastState = some state ↔ ∃ m, c.SeesLast s start run m state
  untold : e.lastState = none ↔ ∀ i, c.Sees s start run i → (s i).state? = none

/-! ### The looks that a run sees -/

section Ended

variable {result : Except (WaitError ε) (Resolution α)} (first : c.FirstDecision s start k result time)
  (calls : run.calls = c.looksFrom s start 0 (c.begunBy s start k))

include first calls

/-- A wait sees all looks that it ends with undecided, and the one that decides if that counts. -/
theorem sees_iff : c.Sees s start run i ↔ i < k ∨ i = k ∧ c.Counts s start k := by
  have made : run.calls.length = c.begunBy s start k := by
    rw [calls, length_looksFrom]
  constructor
  · rintro ⟨low, inTime⟩
    rw [made, begunBy] at low
    split at low
    · rename_i begins
      rcases Nat.lt_succ_iff_lt_or_eq.mp low with before | rfl
      · exact .inl before
      · exact .inr ⟨rfl, begins, inTime⟩
    · exact .inl low
  · rintro (before | ⟨rfl, counts⟩)
    · exact ⟨made ▸ Nat.lt_of_lt_of_le before (c.le_begunBy s start k), (first.first i before).ends⟩
    · refine ⟨?_, counts.ends⟩
      rw [made, begunBy, if_pos counts.begins]
      exact Nat.lt_succ_self i

/-- The look that ends the run is the last one that is seen. -/
theorem sees_iff_of_counts (counts : c.Counts s start k) : c.Sees s start run i ↔ i < k + 1 := by
  rw [sees_iff first calls, Nat.lt_succ_iff_lt_or_eq, and_iff_left counts]

/-- A look that is too late or cut off is not seen. -/
theorem sees_iff_of_not_counts (uncounted : ¬ c.Counts s start k) : c.Sees s start run i ↔ i < k := by
  rw [sees_iff first calls, or_iff_left fun atLast => uncounted atLast.2]

end Ended

theorem seesLast_iff_of_sees (sees : ∀ i, c.Sees s start run i ↔ i < k) :
    c.SeesLast s start run m state ↔ s.ShowsLast k m state := by
  constructor
  · rintro ⟨seen, shown, quiet⟩
    exact ⟨(sees m).mp seen, shown, fun i after low => quiet i after ((sees i).mpr low)⟩
  · rintro ⟨before, shown, quiet⟩
    exact ⟨(sees m).mpr before, shown, fun i after seen => quiet i after ((sees i).mp seen)⟩

/-- An error tells the state last seen if it holds what the script says for the looks that are seen. -/
theorem tellsLastState_of_sees (sees : ∀ i, c.Sees s start run i ↔ i < k)
    (holds : e.lastState = s.lastState k) : c.TellsLastState s start run e where
  told state := by
    rw [holds, Script.lastState_eq_some_iff]
    exact exists_congr fun m => (seesLast_iff_of_sees sees).symm
  untold := by
    rw [holds, Script.lastState_eq_none_iff]
    exact forall_congr' fun i => imp_congr_left (sees i).symm

/-- An error without a state is right if none has been seen. -/
theorem tellsLastState_of_unseen (silent : e.lastState = none)
    (unseen : ∀ i, c.Sees s start run i → (s i).state? = none) : c.TellsLastState s start run e where
  told state := by
    refine iff_of_false (fun holds => nomatch silent.symm.trans holds) ?_
    rintro ⟨m, last⟩
    cases (unseen m last.sees).symm.trans last.shown
  untold := iff_of_true silent unseen

/-! ### What errors tell -/

/-- An error that carries a state carries the one seen last. -/
theorem tellsLastState_of_carriesState (first : c.FirstDecision s start k (.error e) time)
    (calls : run.calls = c.looksFrom s start 0 (c.begunBy s start k)) (carries : e.CarriesState) :
    c.TellsLastState s start run e := by
  cases first.decides with
  | late begins =>
    have uncounted : ¬ c.Counts s start k := fun counts => Nat.not_le.mpr counts.begins begins
    exact tellsLastState_of_sees (fun i => sees_iff_of_not_counts first calls uncounted) rfl
  | cutOff begins runs =>
    have uncounted : ¬ c.Counts s start k := fun counts => Nat.not_lt.mpr counts.ends runs
    exact tellsLastState_of_sees (fun i => sees_iff_of_not_counts first calls uncounted) rfl
  | unexpected state value counts shown target pending =>
    refine tellsLastState_of_sees (fun i => sees_iff_of_counts first calls counts) ?_
    rw [Script.lastState, Look.state?, shown]
    rfl
  | failed cause counts shown => exact absurd carries id
  | missing limit counts target bounded counted enough shown => exact absurd carries id

/-- The look that shows an unexpected state is the last one of the run. -/
theorem seesLast_of_unexpected {pending target : List String}
    (first : c.FirstDecision s start k (.error (.unexpected state pending target)) time)
    (calls : run.calls = c.looksFrom s start 0 (c.begunBy s start k)) :
    k + 1 = run.calls.length ∧ c.SeesLast s start run k state := by
  cases first.decides with
  | unexpected _ value counts shown _ _ =>
    have shows : (s k).state? = some state := by rw [Look.state?, shown]
    constructor
    · rw [calls, length_looksFrom, begunBy, if_pos counts.begins]
    · rw [seesLast_iff_of_sees fun i => sees_iff_of_counts first calls counts,
        Script.showsLast_succ_iff_of_shown shows]
      exact ⟨rfl, rfl⟩

/-- **The last state is told exactly by the errors that carry one.** If a wait runs out of time or meets an
unexpected state, its error tells the state that the wait has seen last, and none only if it has seen
none; an unexpected state is the one in the last look. If a look fails, or finds nothing once too often,
the error tells no state, which is right only if none has been seen. -/
theorem last_state_told_if_carried (c : WaitConfig) (s : Script ε α) (start turns : Nat)
    (e : WaitError ε) (time : Nat)
    (fails : (c.runWithin turns s start).result = some (.error e, time)) :
    (c.TellsLastState s start (c.runWithin turns s start) e ↔
        e.CarriesState ∨
          ∀ i, c.Sees s start (c.runWithin turns s start) i → (s i).state? = none) ∧
      (¬ e.CarriesState → e.lastState = none) ∧
      ∀ state pending target, e = .unexpected state pending target →
        ∃ m, m + 1 = (c.runWithin turns s start).calls.length ∧
          c.SeesLast s start (c.runWithin turns s start) m state := by
  obtain ⟨k, first, calls⟩ :=
    (c.runWithin_comesTo turns s start).exists_firstDecision_of_ended fails
  refine ⟨⟨?_, ?_⟩, WaitError.lastState_of_not_carriesState, ?_⟩
  · intro tells
    by_cases carries : e.CarriesState
    · exact .inl carries
    · exact .inr (tells.untold.mp (WaitError.lastState_of_not_carriesState carries))
  · intro carriesOrUnseen
    by_cases carries : e.CarriesState
    · exact tellsLastState_of_carriesState first calls carries
    · exact tellsLastState_of_unseen (WaitError.lastState_of_not_carriesState carries)
        (carriesOrUnseen.resolve_left carries)
  · rintro state pending target rfl
    exact ⟨k, seesLast_of_unexpected first calls⟩

/-- Three seconds for a machine to be ready, which may not be missing. -/
def strictWait : WaitConfig :=
  { WaitConfig.ofTimeout (.ofSeconds 3) with
    pending := ["Creating"]
    target := ["Ready"]
    missingLimit := some 0 }

/-- A machine that is being created in the first look, and then the given look again and again. -/
def creatingThen (look : Look String Nat) : Script String Nat
  | 0 => ⟨.ok (.found "Creating" 0), .zero⟩
  | _ + 1 => look

/-- A second look that hangs until time has run out. -/
theorem last_state_told_if_carried_of_hung_look :
    let run := strictWait.runWithin 2 (creatingThen ⟨.ok .missing, .max⟩) 0
    let e : WaitError String := .timeout (.ofSeconds 3) ["Ready"] (some "Creating")
    run.result = some (.error e, 3000000000) ∧
      strictWait.TellsLastState (creatingThen ⟨.ok .missing, .max⟩) 0 run e := by
  intro run e
  have fails : run.result = some (.error e, 3000000000) := by rfl
  have told := (last_state_told_if_carried strictWait _ 0 2 e 3000000000 fails).1
  exact ⟨fails, told.mpr (.inl trivial)⟩

theorem seesLast_creatingThen {look : Look String Nat} (silent : look.state? = none)
    {run : Run String Nat} (looks : 0 < run.calls.length) :
    strictWait.SeesLast (creatingThen look) 0 run 0 "Creating" where
  sees := ⟨looks, Nat.zero_le _⟩
  shown := rfl
  quiet i after _ := by
    cases i with
    | zero => exact absurd after (Nat.lt_irrefl 0)
    | succ i => exact silent

/-- A second look that fails, or that finds nothing. The wait has seen that the machine was being created,
and its error does not tell. -/
theorem last_state_forgotten :
    strictWait.runOn (creatingThen ⟨.error "refused", .zero⟩) 0 =
        ⟨some (.error (.probe "refused"), 2000000000), [(0, ()), (2000000000, ())], 2⟩ ∧
      strictWait.runOn (creatingThen ⟨.ok .missing, .zero⟩) 0 =
        ⟨some (.error (.missing 1), 2000000000), [(0, ()), (2000000000, ())], 2⟩ ∧
      (∀ outcome ∈ [.error "refused", .ok .missing],
        strictWait.SeesLast (creatingThen ⟨outcome, .zero⟩) 0
          (strictWait.runOn (creatingThen ⟨outcome, .zero⟩) 0) 0 "Creating") ∧
      ¬ ∀ (s : Script String Nat) (e : WaitError String) (time : Nat),
        (strictWait.runOn s 0).result = some (.error e, time) →
          strictWait.TellsLastState s 0 (strictWait.runOn s 0) e := by
  have failing : strictWait.runOn (creatingThen ⟨.error "refused", .zero⟩) 0 =
      ⟨some (.error (.probe "refused"), 2000000000), [(0, ()), (2000000000, ())], 2⟩ := rfl
  have vanishing : strictWait.runOn (creatingThen ⟨.ok .missing, .zero⟩) 0 =
      ⟨some (.error (.missing 1), 2000000000), [(0, ()), (2000000000, ())], 2⟩ := rfl
  have last : ∀ outcome ∈ [.error "refused", .ok .missing],
      strictWait.SeesLast (creatingThen ⟨outcome, .zero⟩) 0
        (strictWait.runOn (creatingThen ⟨outcome, .zero⟩) 0) 0 "Creating" := by
    intro outcome either
    rcases List.mem_pair.mp either with rfl | rfl
    · exact seesLast_creatingThen rfl (failing ▸ Nat.two_pos)
    · exact seesLast_creatingThen rfl (vanishing ▸ Nat.two_pos)
  refine ⟨failing, vanishing, last, fun tells => ?_⟩
  have told := (tells _ _ _ (congrArg Plan.Run.result failing)).told "Creating"
  exact nomatch told.mpr ⟨0, last _ List.mem_cons_self⟩

end WaitConfig

end VirtLifecycle
