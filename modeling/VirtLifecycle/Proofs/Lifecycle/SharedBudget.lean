/-
Module: VirtLifecycle.Proofs.Lifecycle.SharedBudget
Purpose: The deletion of a machine waits for two objects with one budget: for the running counterpart, and
  from the moment that is gone for the machine itself, with the time that is left. All reads are answered
  at once; the answers alone tell how the deletion ends, when, and which object is to blame.
Main exports: Lifecycle.GoneScript, Lifecycle.SharesBudget, Lifecycle.delete_shares_budget
-/
import VirtLifecycle.Proofs.Lifecycle.Deletion

namespace VirtLifecycle.Lifecycle

/-- The answers that the deletion of a machine meets: the deletion is accepted after some time, reads of
the running counterpart and of the machine are answered at once. -/
structure GoneScript where
  takes : Duration
  counterpart : Nat → ReadAnswer .virtualMachineInstance
  machine : Nat → ReadAnswer .virtualMachine

namespace GoneScript

/-- Answers calls by the script. The state counts the reads of the counterpart and of the machine. -/
def respond (s : GoneScript) : Plan.Responder Call Call.Reply (Nat × Nat) := fun (i, j) _ call =>
  match call with
  | .create object => ((.ok object, .zero), (i, j))
  | .get .virtualMachineInstance _ => ((s.counterpart i, .zero), (i + 1, j))
  | .get .virtualMachine _ => ((s.machine j, .zero), (i, j + 1))
  | .get .replicaSet _ | .get .dataVolume _ => ((.ok none, .zero), (i, j))
  | .update _ id _ => ((.error (.rejected (.absent id)), .zero), (i, j))
  | .delete _ _ => ((.ok (), s.takes), (i, j))

/-- The reads of the running counterpart are answered in their own order, however many of the machine come
between. -/
theorem answers_counterpart (s : GoneScript) (id : ResourceId) (j : Nat) :
    AnswersReads s.respond .virtualMachineInstance id s.counterpart fun k => (k, j) := fun _ _ => rfl

theorem answers_machine (s : GoneScript) (id : ResourceId) (i : Nat) :
    AnswersReads s.respond .virtualMachine id s.machine fun k => (i, k) := fun _ _ => rfl

end GoneScript

/-- The run of a deletion that is accepted at `begun`, reads every `step` and has so much time. Its final
state counts the reads of the counterpart and of the machine. -/
structure SharesBudget (s : GoneScript) (id : ResourceId) (step budget now begun : Nat)
    (run : Plan.Run Call (Nat × Nat) (Except LifecycleError Unit × Nat)) : Prop where
  /-- it ends, and not later than the budget says -/
  ends : ∃ result time, run.result = some (result, time) ∧ time ≤ begun + budget
  /-- first the counterpart is read, then the machine, from the last read of the counterpart on -/
  reads : run.calls = (now, .delete .virtualMachine id) ::
    (readsFrom .virtualMachineInstance id begun step run.final.1 ++
      readsFrom .virtualMachine id (begun + (run.final.1 - 1) * step) step run.final.2)
  /-- the machine is read if and only if a read has found the counterpart gone -/
  machineRead : 0 < run.final.2 ↔ ∃ i < run.final.1, s.counterpart i = .ok none
  /-- success takes a read that finds the counterpart gone, and from then on one of the machine -/
  succeeds : ∀ time, run.result = some (.ok (), time) ↔
    ∃ a b, begun + (a + b) * step = time ∧ time < begun + budget ∧
      (∀ i < a, IsPresent (s.counterpart i)) ∧ s.counterpart a = .ok none ∧
      (∀ j < b, IsPresent (s.machine j)) ∧ s.machine b = .ok none
  /-- running out of time uses up the budget, and names the object that was waited for -/
  expires : ∀ kind id' transition timeout target lastState time,
    run.result = some (.error (.wait kind id' transition (.timeout timeout target lastState)), time) →
      time = begun + budget ∧ id' = id ∧ transition = .deletion ∧
        ((kind = .virtualMachineInstance ∧ ∀ i < run.final.1, s.counterpart i ≠ .ok none) ∨
          (kind = .virtualMachine ∧ ∃ i < run.final.1, s.counterpart i = .ok none))
  /-- the first read of the counterpart that fails ends it -/
  counterpartFails : ∀ a cause, a * step < budget → (∀ i < a, IsPresent (s.counterpart i)) →
    s.counterpart a = .error cause →
      run.result = some (.error (.wait .virtualMachineInstance id .deletion (.probe cause)),
          begun + a * step) ∧ run.final = (a + 1, 0)
  /-- and so does the first read of the machine that fails -/
  machineFails : ∀ a b cause, (a + b) * step < budget → (∀ i < a, IsPresent (s.counterpart i)) →
    s.counterpart a = .ok none → (∀ j < b, IsPresent (s.machine j)) → s.machine b = .error cause →
      run.result = some (.error (.wait .virtualMachine id .deletion (.probe cause)),
          begun + (a + b) * step) ∧ run.final = (a + 1, b + 1)

/-! ### The two waits in turn -/

section Stages

variable {σ : Type} (respond : Plan.Responder Call Call.Reply σ) {state state' : σ} {config : Config}
  {id : ResourceId} {budget : Duration} {begun time : Nat} {calls : List (Nat × Call)}

/-- If the counterpart does not go, that is how the deletion ends. -/
theorem run_awaitGone_of_error {error : LifecycleError}
    (first : (awaitDeleted config .virtualMachineInstance id budget begun).run respond state =
      ⟨some (.error error, time), calls, state'⟩) :
    (awaitGone config .virtualMachine id budget begun).run respond state =
      ⟨some (.error error, time), calls, state'⟩ := by
  let next : Unit → Operation Unit := fun _ => do
    let reached ← Operation.now
    awaitDeleted config .virtualMachine id (budget.sub (Clock.elapsed begun reached))
  have whole : awaitGone config .virtualMachine id budget begun =
      (awaitDeleted config .virtualMachineInstance id budget >>= next) begun := rfl
  rw [whole, Operation.run_bind, first, Plan.Run.andThen_of_some rfl]
  simp [Operation.resume, Plan.run]

/-- When the counterpart has gone, the machine is waited for with what is left of the budget. -/
theorem run_awaitGone_of_ok
    (first : (awaitDeleted config .virtualMachineInstance id budget begun).run respond state =
      ⟨some (.ok (), time), calls, state'⟩) :
    (awaitGone config .virtualMachine id budget begun).run respond state =
      let second := (awaitDeleted config .virtualMachine id
        (budget.sub (Clock.elapsed begun time)) time).run respond state'
      ⟨second.result, calls ++ second.calls, second.final⟩ := by
  let next : Unit → Operation Unit := fun _ => do
    let reached ← Operation.now
    awaitDeleted config .virtualMachine id (budget.sub (Clock.elapsed begun reached))
  have whole : awaitGone config .virtualMachine id budget begun =
      (awaitDeleted config .virtualMachineInstance id budget >>= next) begun := rfl
  rw [whole, Operation.run_bind, first, Plan.Run.andThen_of_some rfl]
  rfl

end Stages

/-- What is left of a budget when a whole number of milliseconds has passed. -/
theorem nanos_sub_elapsed (budget : Duration) (begun passed : Nat) (within : passed ≤ budget.nanos) :
    (budget.sub (Clock.elapsed begun (begun + passed))).nanos = budget.nanos - passed := by
  have most := budget.nanos_le
  rw [Duration.nanos_sub, Clock.elapsed, Nat.add_sub_cancel_left,
    Duration.nanos_ofNanos_of_le (Nat.le_trans within most)]

/-- The second wait runs on timers like the first. -/
theorem DeletionTimely.rest {config : Config} {budget : Duration} {begun passed : Nat}
    (timely : DeletionTimely config budget begun) (whole : Clock.IsMilli passed)
    (within : passed ≤ budget.nanos) :
    DeletionTimely config (budget.sub (Clock.elapsed begun (begun + passed))) (begun + passed) where
  pause := timely.pause
  opening := timely.opening.add whole
  budget := by
    rw [nanos_sub_elapsed budget begun passed within]
    have wholeBudget := timely.budget
    unfold Clock.IsMilli Duration.milliNanos at *
    omega
  shown := by
    have sameEnd : begun + passed + (budget.nanos - passed) = begun + budget.nanos := by omega
    rw [nanos_sub_elapsed budget begun passed within, sameEnd]
    exact timely.shown

theorem IsPresent.ne_absent {kind : Kind} {answer : ReadAnswer kind} (present : IsPresent answer) :
    answer ≠ .ok none := by
  obtain ⟨object, rfl⟩ := present
  rintro ⟨⟩

/-- None of the first reads finds the object gone if it is present in all of them, or in all but a last
one that fails. -/
theorem ne_absent_of_lt_succ {kind : Kind} {answers : Nat → ReadAnswer kind} {n : Nat}
    {cause : ClientError} (present : ∀ i < n, IsPresent (answers i)) (fails : answers n = .error cause) :
    ∀ i < n + 1, answers i ≠ .ok none := by
  intro i low
  rcases Nat.lt_succ_iff_lt_or_eq.mp low with before | rfl
  · exact (present i before).ne_absent
  · rw [fails]
    rintro ⟨⟩

/-- How the two waits for a deleted machine end, read by read. -/
inductive GoneRun (s : GoneScript) (id : ResourceId) (step budget begun : Nat) :
    Plan.Run Call (Nat × Nat) (Except LifecycleError Unit × Nat) → Prop where
  | counterpartFailed (a : Nat) (cause : ClientError) (due : a * step < budget)
      (present : ∀ i < a, IsPresent (s.counterpart i)) (fails : s.counterpart a = .error cause) :
      GoneRun s id step budget begun
        ⟨some (.error (.wait .virtualMachineInstance id .deletion (.probe cause)), begun + a * step),
          readsFrom .virtualMachineInstance id begun step (a + 1), (a + 1, 0)⟩
  | counterpartExpired (n : Nat) (timeout : Duration) (lastState : Option String)
      (present : ∀ i < n, IsPresent (s.counterpart i)) :
      GoneRun s id step budget begun
        ⟨some (.error (.wait .virtualMachineInstance id .deletion (.timeout timeout [] lastState)),
            begun + budget),
          readsFrom .virtualMachineInstance id begun step n, (n, 0)⟩
  | machineFailed (a b : Nat) (cause : ClientError) (due : (a + b) * step < budget)
      (present : ∀ i < a, IsPresent (s.counterpart i)) (absent : s.counterpart a = .ok none)
      (still : ∀ j < b, IsPresent (s.machine j)) (fails : s.machine b = .error cause) :
      GoneRun s id step budget begun
        ⟨some (.error (.wait .virtualMachine id .deletion (.probe cause)), begun + (a + b) * step),
          readsFrom .virtualMachineInstance id begun step (a + 1) ++
            readsFrom .virtualMachine id (begun + a * step) step (b + 1), (a + 1, b + 1)⟩
  | machineExpired (a n : Nat) (timeout : Duration) (lastState : Option String)
      (present : ∀ i < a, IsPresent (s.counterpart i)) (absent : s.counterpart a = .ok none) :
      GoneRun s id step budget begun
        ⟨some (.error (.wait .virtualMachine id .deletion (.timeout timeout [] lastState)),
            begun + budget),
          readsFrom .virtualMachineInstance id begun step (a + 1) ++
            readsFrom .virtualMachine id (begun + a * step) step (n + 1), (a + 1, n + 1)⟩
  | gone (a b : Nat) (due : (a + b) * step < budget)
      (present : ∀ i < a, IsPresent (s.counterpart i)) (absent : s.counterpart a = .ok none)
      (still : ∀ j < b, IsPresent (s.machine j)) (goneToo : s.machine b = .ok none) :
      GoneRun s id step budget begun
        ⟨some (.ok (), begun + (a + b) * step),
          readsFrom .virtualMachineInstance id begun step (a + 1) ++
            readsFrom .virtualMachine id (begun + a * step) step (b + 1), (a + 1, b + 1)⟩

namespace GoneRun

variable {s : GoneScript} {id : ResourceId} {step budget begun : Nat}
  {run : Plan.Run Call (Nat × Nat) (Except LifecycleError Unit × Nat)}

theorem ends (h : GoneRun s id step budget begun run) :
    ∃ result time, run.result = some (result, time) ∧ time ≤ begun + budget := by
  cases h with
  | counterpartFailed a cause due => exact ⟨_, _, rfl, by omega⟩
  | machineFailed a b cause due => exact ⟨_, _, rfl, by omega⟩
  | gone a b due => exact ⟨_, _, rfl, by omega⟩
  | counterpartExpired | machineExpired => exact ⟨_, _, rfl, Nat.le_refl _⟩

/-- First the running counterpart is read until it is gone, then the machine is, from the very same time on.
-/
theorem calls_eq (h : GoneRun s id step budget begun run) :
    run.calls = readsFrom .virtualMachineInstance id begun step run.final.1 ++
      readsFrom .virtualMachine id (begun + (run.final.1 - 1) * step) step run.final.2 := by
  cases h with
  | counterpartFailed | counterpartExpired => exact (List.append_nil _).symm
  | machineFailed | machineExpired | gone => rfl

/-- The machine is read at all just if the running counterpart was gone at one of the reads of it. -/
theorem machineRead_iff (h : GoneRun s id step budget begun run) :
    0 < run.final.2 ↔ ∃ i < run.final.1, s.counterpart i = .ok none := by
  cases h with
  | counterpartFailed a cause due present fails =>
    refine iff_of_false (Nat.lt_irrefl 0) ?_
    rintro ⟨i, low, absent⟩
    exact ne_absent_of_lt_succ present fails i low absent
  | counterpartExpired n timeout lastState present =>
    refine iff_of_false (Nat.lt_irrefl 0) ?_
    rintro ⟨i, low, absent⟩
    exact (present i low).ne_absent absent
  | machineFailed a b cause due present absent
  | machineExpired a b timeout lastState present absent
  | gone a b due present absent =>
    exact iff_of_true (Nat.succ_pos b) ⟨a, Nat.lt_succ_self a, absent⟩

/-- Success tells when each of the two was gone. -/
theorem exists_of_succeeded (h : GoneRun s id step budget begun run) {time : Nat}
    (ended : run.result = some (.ok (), time)) :
    ∃ a b, begun + (a + b) * step = time ∧ time < begun + budget ∧
      (∀ i < a, IsPresent (s.counterpart i)) ∧ s.counterpart a = .ok none ∧
      (∀ j < b, IsPresent (s.machine j)) ∧ s.machine b = .ok none := by
  cases h with
  | gone a b due present absent still goneToo =>
    cases ended
    exact ⟨a, b, rfl, by omega, present, absent, still, goneToo⟩
  | counterpartFailed | counterpartExpired | machineFailed | machineExpired => cases ended

/-- Running out of time tells which of the two was waited for. -/
theorem of_expired (h : GoneRun s id step budget begun run) {kind : Kind} {id' : ResourceId}
    {transition : Transition} {timeout : Duration} {target : List String} {lastState : Option String}
    {time : Nat} (ended : run.result =
      some (.error (.wait kind id' transition (.timeout timeout target lastState)), time)) :
    time = begun + budget ∧ id' = id ∧ transition = .deletion ∧
      ((kind = .virtualMachineInstance ∧ ∀ i < run.final.1, s.counterpart i ≠ .ok none) ∨
        (kind = .virtualMachine ∧ ∃ i < run.final.1, s.counterpart i = .ok none)) := by
  cases h with
  | counterpartExpired n timeout lastState present =>
    cases ended
    exact ⟨rfl, rfl, rfl, .inl ⟨rfl, fun i low => (present i low).ne_absent⟩⟩
  | machineExpired a n timeout lastState present absent =>
    cases ended
    exact ⟨rfl, rfl, rfl, .inr ⟨rfl, a, Nat.lt_succ_self a, absent⟩⟩
  | counterpartFailed | machineFailed | gone => cases ended

end GoneRun

section Runs

variable (s : GoneScript) (id : ResourceId) {config : Config} {budget : Duration} {begun step : Nat}
  (timely : DeletionTimely config budget begun) (pace : Clock.ceilMilli config.pause.nanos = step)

include timely pace

/-- The counterpart goes in read `a`: the run of both waits by that of the second. -/
theorem run_awaitGone_of_counterpart_gone {a : Nat} (due : a * step < budget.nanos)
    (present : ∀ i < a, IsPresent (s.counterpart i)) (absent : s.counterpart a = .ok none) :
    ∃ rest : Duration, rest.nanos = budget.nanos - a * step ∧
      DeletionTimely config rest (begun + a * step) ∧
      (awaitGone config .virtualMachine id budget begun).run s.respond (0, 0) =
        let second := (awaitDeleted config .virtualMachine id rest (begun + a * step)).run
          s.respond (a + 1, 0)
        ⟨second.result,
          readsFrom .virtualMachineInstance id begun step (a + 1) ++ second.calls, second.final⟩ := by
  subst pace
  have whole : Clock.IsMilli (a * Clock.ceilMilli config.pause.nanos) :=
    (Clock.isMilli_ceilMilli _).mul a
  have within := Nat.le_of_lt due
  refine ⟨_, nanos_sub_elapsed budget begun _ within, timely.rest whole within, ?_⟩
  exact run_awaitGone_of_ok s.respond
    (run_awaitDeleted_of_gone timely (s.answers_counterpart id 0) due present absent)

/-- If the counterpart and then the machine are gone at reads that are due, the pauses of both counted
together, the deletion succeeds. -/
theorem run_awaitGone_of_gone {a b : Nat} (due : (a + b) * step < budget.nanos)
    (present : ∀ i < a, IsPresent (s.counterpart i)) (absent : s.counterpart a = .ok none)
    (still : ∀ j < b, IsPresent (s.machine j)) (goneToo : s.machine b = .ok none) :
    (awaitGone config .virtualMachine id budget begun).run s.respond (0, 0) =
      ⟨some (.ok (), begun + (a + b) * step),
        readsFrom .virtualMachineInstance id begun step (a + 1) ++
          readsFrom .virtualMachine id (begun + a * step) step (b + 1), (a + 1, b + 1)⟩ := by
  rw [Nat.add_mul] at due
  obtain ⟨rest, left, timelyRest, run⟩ :=
    run_awaitGone_of_counterpart_gone s id timely pace (by omega) present absent
  subst pace
  rw [run, run_awaitDeleted_of_gone timelyRest (s.answers_machine id (a + 1)) (by omega) still goneToo,
    Nat.add_assoc, Nat.add_mul]

/-- If a read of the machine fails after the counterpart was gone, the deletion fails with its cause, as a
wait for the machine. -/
theorem run_awaitGone_of_machine_failed {a b : Nat} {cause : ClientError}
    (due : (a + b) * step < budget.nanos)
    (present : ∀ i < a, IsPresent (s.counterpart i)) (absent : s.counterpart a = .ok none)
    (still : ∀ j < b, IsPresent (s.machine j)) (fails : s.machine b = .error cause) :
    (awaitGone config .virtualMachine id budget begun).run s.respond (0, 0) =
      ⟨some (.error (.wait .virtualMachine id .deletion (.probe cause)), begun + (a + b) * step),
        readsFrom .virtualMachineInstance id begun step (a + 1) ++
          readsFrom .virtualMachine id (begun + a * step) step (b + 1), (a + 1, b + 1)⟩ := by
  rw [Nat.add_mul] at due
  obtain ⟨rest, left, timelyRest, run⟩ :=
    run_awaitGone_of_counterpart_gone s id timely pace (by omega) present absent
  subst pace
  rw [run, run_awaitDeleted_of_failed timelyRest (s.answers_machine id (a + 1)) (by omega) still fails,
    Nat.add_assoc, Nat.add_mul]

/-- If a read of the counterpart fails, the deletion fails with its cause, as a wait for the counterpart,
and the machine is not read. -/
theorem run_awaitGone_of_counterpart_failed {a : Nat} {cause : ClientError}
    (due : a * step < budget.nanos) (present : ∀ i < a, IsPresent (s.counterpart i))
    (fails : s.counterpart a = .error cause) :
    (awaitGone config .virtualMachine id budget begun).run s.respond (0, 0) =
      ⟨some (.error (.wait .virtualMachineInstance id .deletion (.probe cause)), begun + a * step),
        readsFrom .virtualMachineInstance id begun step (a + 1), (a + 1, 0)⟩ := by
  subst pace
  exact run_awaitGone_of_error s.respond
    (run_awaitDeleted_of_failed timely (s.answers_counterpart id 0) due present fails)

/-- The answers decide between five ends. -/
theorem goneRun :
    GoneRun s id step budget.nanos begun
      ((awaitGone config .virtualMachine id budget begun).run s.respond (0, 0)) := by
  have positive : 0 < step := by
    rw [← pace]
    exact Nat.lt_of_lt_of_le timely.pause (Clock.le_ceilMilli _)
  cases exists_fate s.counterpart positive budget.nanos with
  | failed a cause due present fails =>
    rw [run_awaitGone_of_counterpart_failed s id timely pace due present fails]
    exact .counterpartFailed a cause due present fails
  | expired n late due present =>
    subst pace
    obtain ⟨lastState, first⟩ :=
      run_awaitDeleted_of_expired timely (s.answers_counterpart id 0) late due present
    rw [run_awaitGone_of_error s.respond first]
    exact .counterpartExpired n budget lastState present
  | gone a due present absent =>
    cases exists_fate s.machine positive (budget.nanos - a * step) with
    | gone b dueToo still goneToo =>
      have within : (a + b) * step < budget.nanos := by
        rw [Nat.add_mul]
        omega
      rw [run_awaitGone_of_gone s id timely pace within present absent still goneToo]
      exact .gone a b within present absent still goneToo
    | failed b cause dueToo still fails =>
      have within : (a + b) * step < budget.nanos := by
        rw [Nat.add_mul]
        omega
      rw [run_awaitGone_of_machine_failed s id timely pace within present absent still fails]
      exact .machineFailed a b cause within present absent still fails
    | expired n late dueToo still =>
      obtain ⟨rest, left, timelyRest, run⟩ :=
        run_awaitGone_of_counterpart_gone s id timely pace due present absent
      cases n with
      | zero => omega
      | succ n =>
        subst pace
        rw [← left] at late dueToo
        obtain ⟨lastState, second⟩ := run_awaitDeleted_of_expired timelyRest
          (s.answers_machine id (a + 1)) late dueToo still
        have sameEnd : begun + a * Clock.ceilMilli config.pause.nanos + rest.nanos =
            begun + budget.nanos := by omega
        rw [run, second, sameEnd]
        exact .machineExpired a n rest lastState present absent

end Runs

/-! ### The whole deletion -/

/-- What the deletion of a machine does once it is accepted and waited for. -/
theorem run_delete_of_wait {config : Config} (waits : config.wait = true) (s : GoneScript)
    (id : ResourceId) {now : Nat} (opening : Clock.IsMilli now) :
    (Lifecycle.delete config .virtualMachine id now).run s.respond (0, 0) =
      ((awaitGone config .virtualMachine id config.timeouts.delete
        (now + Clock.ceilMilli s.takes.nanos)).run s.respond (0, 0)).after
          (now, .delete .virtualMachine id) := by
  have whole : Lifecycle.delete config .virtualMachine id =
      Operation.call (.delete .virtualMachine id) >>= fun _ =>
        awaitGone config .virtualMachine id config.timeouts.delete := by
    unfold Lifecycle.delete
    rw [waits]
    rfl
  rw [whole, Operation.run_call_bind, ← Clock.sleepUntil_add opening]
  rfl

/-- **The deletion of a machine shares one budget.** A deletion that is accepted and waited for shares its
budget between the running counterpart and the machine, whatever the reads of both are answered with. The
clock sleeps to whole milliseconds, so times are counted from one: the deletion begins on a whole
millisecond, and its budget is a number of them. -/
theorem delete_shares_budget (config : Config) (s : GoneScript) (id : ResourceId) (now : Nat)
    (waits : config.wait = true) (positive : 0 < config.pause.nanos) (opening : Clock.IsMilli now)
    (budget : Clock.IsMilli config.timeouts.delete.nanos)
    (shown : Clock.CanShow (now + Clock.ceilMilli s.takes.nanos + config.timeouts.delete.nanos)) :
    SharesBudget s id (Clock.ceilMilli config.pause.nanos) config.timeouts.delete.nanos now
      (now + Clock.ceilMilli s.takes.nanos)
      ((Lifecycle.delete config .virtualMachine id now).run s.respond (0, 0)) := by
  have begins : Clock.IsMilli (now + Clock.ceilMilli s.takes.nanos) :=
    opening.add (Clock.isMilli_ceilMilli _)
  have timely : DeletionTimely config config.timeouts.delete (now + Clock.ceilMilli s.takes.nanos) :=
    ⟨positive, begins, budget, shown⟩
  have whole := goneRun s id timely rfl
  rw [run_delete_of_wait waits s id opening]
  generalize now + Clock.ceilMilli s.takes.nanos = begun at timely whole ⊢
  generalize pace : Clock.ceilMilli config.pause.nanos = step at whole ⊢
  constructor
  case ends => exact whole.ends
  case reads => exact congrArg _ whole.calls_eq
  case machineRead => exact whole.machineRead_iff
  case expires =>
    intro kind id' transition timeout target lastState time ended
    exact whole.of_expired ended
  case succeeds =>
    intro time
    constructor
    · exact whole.exists_of_succeeded
    · rintro ⟨a, b, rfl, due, present, absent, still, goneToo⟩
      rw [run_awaitGone_of_gone s id timely pace (by omega) present absent still goneToo]
      rfl
  case counterpartFails =>
    intro a cause due present fails
    rw [run_awaitGone_of_counterpart_failed s id timely pace due present fails]
    exact ⟨rfl, rfl⟩
  case machineFails =>
    intro a b cause due present absent still fails
    rw [run_awaitGone_of_machine_failed s id timely pace due present absent still fails]
    exact ⟨rfl, rfl⟩

/-- A counterpart that is gone in its second read, and a machine that is gone in its second read from then
on, a millisecond before time is up. -/
theorem delete_shares_budget_of_both_gone :
    let config : Config :=
      { Config.standard with
        pause := .ofMillis 2
        timeouts := { Timeouts.standard with delete := .ofMillis 5 } }
    let s : GoneScript :=
      { takes := .ofMillis 1
        counterpart := fun i => .ok (if i = 0 then some default else none)
        machine := fun j => .ok (if j = 0 then some default else none) }
    let id : ResourceId := ⟨"default", "vm"⟩
    config.wait = true ∧ 0 < config.pause.nanos ∧ Clock.IsMilli 0 ∧
      Clock.IsMilli config.timeouts.delete.nanos ∧
      Clock.CanShow (0 + Clock.ceilMilli s.takes.nanos + config.timeouts.delete.nanos) ∧
      ((Lifecycle.delete config .virtualMachine id 0).run s.respond (0, 0)).result =
        some (.ok (), 5000000) := by
  intro config s id
  have positive : 0 < config.pause.nanos := by decide
  have budget : Clock.IsMilli config.timeouts.delete.nanos := by decide
  have shown : Clock.CanShow (0 + Clock.ceilMilli s.takes.nanos + config.timeouts.delete.nanos) := by
    decide
  have shares := delete_shares_budget config s id 0 rfl positive rfl budget shown
  have present : ∀ {kind : Kind} (i : Nat), i < 1 →
      IsPresent (.ok (if i = 0 then some default else none) : ReadAnswer kind) := by
    intro kind i low
    rw [Nat.lt_one_iff.mp low]
    exact ⟨default, rfl⟩
  refine ⟨rfl, positive, rfl, budget, shown, (shares.succeeds 5000000).mpr ?_⟩
  exact ⟨1, 1, by decide, by decide, present, rfl, present, rfl⟩

end VirtLifecycle.Lifecycle
