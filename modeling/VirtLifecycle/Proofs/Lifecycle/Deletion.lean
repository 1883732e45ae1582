/-
Module: VirtLifecycle.Proofs.Lifecycle.Deletion
Purpose: Waiting for deleted objects to be gone, where all reads are answered at once. How it ends depends
  only on what each read tells of the object: it is gone, it is still there, or the read fails. If it is
  there whenever it is read, time runs out. What else an object says makes no difference.
Main exports: Lifecycle.IsPresent, Lifecycle.GoneAt, Lifecycle.presence, Lifecycle.DeletionRun,
  Lifecycle.deletionRun, Lifecycle.deletion_waits_for_absence, Lifecycle.deletion_misses_absence,
  Lifecycle.Fate, Lifecycle.exists_fate, Lifecycle.DeletionTimely
-/
import VirtLifecycle.Proofs.Lifecycle.Reads

namespace VirtLifecycle.Lifecycle

section Answers

variable {kind : Kind}

/-- The object is still there. -/
def IsPresent (answer : ReadAnswer kind) : Prop := ∃ object, answer = .ok (some object)

/-- Read `n` is the first that does not find the object there, and it finds nothing. -/
structure GoneAt (answers : Nat → ReadAnswer kind) (n : Nat) : Prop where
  present : ∀ i < n, IsPresent (answers i)
  absent : answers n = .ok none

/-- What a read tells of an object: whether it is there, or why the read has failed. -/
def presence (answer : ReadAnswer kind) : Except ClientError Bool := answer.map Option.isSome

theorem isPresent_iff {answer : ReadAnswer kind} : IsPresent answer ↔ presence answer = .ok true := by
  constructor
  · rintro ⟨object, rfl⟩
    rfl
  · intro there
    rcases answer with cause | absent | object
    · cases there
    · cases there
    · exact ⟨object, rfl⟩

theorem eq_absent_iff {answer : ReadAnswer kind} :
    answer = .ok none ↔ presence answer = .ok false := by
  constructor
  · rintro rfl
    rfl
  · intro absent
    rcases answer with cause | - | object
    · cases absent
    · rfl
    · cases absent

theorem eq_error_iff {answer : ReadAnswer kind} {cause : ClientError} :
    answer = .error cause ↔ presence answer = .error cause := by
  constructor
  · rintro rfl
    rfl
  · intro fails
    rcases answer with other | found
    · cases fails
      rfl
    · cases fails

variable {answers answers' : Nat → ReadAnswer kind} (same : ∀ k, presence (answers' k) = presence (answers k))

include same

theorem isPresent_of_same {n : Nat} (present : ∀ i < n, IsPresent (answers i)) :
    ∀ i < n, IsPresent (answers' i) := by
  intro i low
  rw [isPresent_iff, same, ← isPresent_iff]
  exact present i low

/-- Reads that tell the same of presence show an object as gone at the same read. -/
theorem GoneAt.of_same {n : Nat} (gone : GoneAt answers n) : GoneAt answers' n where
  present := isPresent_of_same same gone.present
  absent := by
    rw [eq_absent_iff, same, ← eq_absent_iff]
    exact gone.absent

end Answers

section Outcomes

variable {σ : Type} {kind : Kind} {id : ResourceId} {timeout : Duration} {answers : Nat → ReadAnswer kind}
  {after : Nat → σ} {times : Nat → Nat} {limit : Nat}
  {run : Plan.Run Call σ (Except LifecycleError Unit × Nat)}

/-- The whole run of a wait for a deleted object, whose reads are made at the given times as long as these
are below the limit. -/
inductive DeletionRun (kind : Kind) (id : ResourceId) (timeout : Duration) (answers : Nat → ReadAnswer kind)
    (after : Nat → σ) (times : Nat → Nat) (limit : Nat) :
    Plan.Run Call σ (Except LifecycleError Unit × Nat) → Prop where
  | gone {n : Nat} (due : times n < limit) (gone : GoneAt answers n) :
      DeletionRun kind id timeout answers after times limit
        ⟨some (.ok (), times n), readsAt kind id times (n + 1), after (n + 1)⟩
  | failed {n : Nat} {cause : ClientError} (due : times n < limit)
      (present : ∀ i < n, IsPresent (answers i)) (fails : answers n = .error cause) :
      DeletionRun kind id timeout answers after times limit
        ⟨some (.error (.wait kind id .deletion (.probe cause)), times n), readsAt kind id times (n + 1),
          after (n + 1)⟩
  | expired {n : Nat} (late : limit ≤ times n) (due : ∀ i < n, times i < limit)
      (present : ∀ i < n, IsPresent (answers i)) :
      DeletionRun kind id timeout answers after times limit
        ⟨some (.error (.wait kind id .deletion
              (.timeout timeout [] (if n = 0 then none else some deletingState))),
            min (times n) (Clock.ceilMilli limit)),
          readsAt kind id times n, after n⟩

/-- What a wait for a deleted object comes to whose reads are made at the given times, as long as these are
below the limit. -/
structure DeletionOutcome (kind : Kind) (id : ResourceId) (timeout : Duration)
    (answers : Nat → ReadAnswer kind) (after : Nat → σ) (times : Nat → Nat) (limit : Nat)
    (run : Plan.Run Call σ (Except LifecycleError Unit × Nat)) : Prop where
  ends : run.result.isSome
  /-- the first read that finds nothing ends the wait, if all before it have found the object -/
  succeeds : ∀ n, times n < limit → GoneAt answers n →
    run = ⟨some (.ok (), times n), readsAt kind id times (n + 1), after (n + 1)⟩
  /-- without such a read there is no success -/
  sound : ∀ time, run.result = some (.ok (), time) → ∃ n, times n = time ∧ times n < limit ∧ GoneAt answers n
  /-- a failure is that of the first read that fails, or time has run out with the object there in every
  read; then the failure tells that it is being deleted, unless there was no read -/
  fails : ∀ error time, run.result = some (.error error, time) →
    (∃ n cause, times n = time ∧ times n < limit ∧ (∀ i < n, IsPresent (answers i)) ∧
      answers n = .error cause ∧ error = .wait kind id .deletion (.probe cause)) ∨
    (∃ n, limit ≤ times n ∧ (∀ i < n, times i < limit ∧ IsPresent (answers i)) ∧
      run.calls = readsAt kind id times n ∧
      error = .wait kind id .deletion (.timeout timeout [] (if n = 0 then none else some "Deleting")))

/-- From the run as a whole and from what it comes to where the object is gone in time, the outcome is told
in all cases. -/
theorem DeletionRun.outcome (whole : DeletionRun kind id timeout answers after times limit run)
    (succeeds : ∀ n, times n < limit → GoneAt answers n →
      run = ⟨some (.ok (), times n), readsAt kind id times (n + 1), after (n + 1)⟩) :
    DeletionOutcome kind id timeout answers after times limit run := by
  cases whole with
  | gone due gone =>
    refine ⟨rfl, succeeds, ?_, ?_⟩
    · rintro _ ⟨⟩
      exact ⟨_, rfl, due, gone⟩
    · rintro _ _ ⟨⟩
  | failed due present fails =>
    refine ⟨rfl, succeeds, ?_, ?_⟩
    · rintro _ ⟨⟩
    · rintro _ _ ⟨⟩
      exact .inl ⟨_, _, rfl, due, present, fails, rfl⟩
  | expired late due present =>
    refine ⟨rfl, succeeds, ?_, ?_⟩
    · rintro _ ⟨⟩
    · rintro _ _ ⟨⟩
      exact .inr ⟨_, late, fun i low => ⟨due i low, present i low⟩, rfl, rfl⟩

end Outcomes

/-! ### Reads at any times -/

section Wait

variable {σ : Type} {config : Config} {kind : Kind} {id : ResourceId} {timeout : Duration}
  {start : Nat} {respond : Plan.Responder Call Call.Reply σ} {after : Nat → σ}
  {answers : Nat → ReadAnswer kind}

/-- How the wait for a deleted object looks at it. -/
def goneProbe (kind : Kind) (id : ResourceId) : Probe Call Call.Reply ClientError Unit :=
  look kind id fun _ => (deletingState, ())

/-- The looks that the answers make. -/
def goneLooks (answers : Nat → ReadAnswer kind) (id : ResourceId) : Script ClientError Unit := fun k =>
  ⟨(goneProbe kind id).read (answers k), .zero⟩

/-- What the end of a wait means for the deletion of an object. -/
def deletionResult (kind : Kind) (id : ResourceId)
    (result : Except (WaitError ClientError) (Resolution Unit)) : Except LifecycleError Unit :=
  (result.mapError (.wait kind id .deletion)).map fun _ => ()

/-- Where a read finds an object, whatever it holds, the look shows it as being deleted. -/
theorem outcome_goneLooks (id : ResourceId) {k : Nat} (present : IsPresent (answers k)) :
    (goneLooks answers id k).outcome = .ok (.found deletingState ()) := by
  obtain ⟨object, shown⟩ := present
  exact outcome_looks_found shown

/-- While the object is there, it is being deleted. -/
theorem lastState_goneLooks (id : ResourceId) {n : Nat} (present : ∀ i < n, IsPresent (answers i)) :
    (goneLooks answers id).lastState n = if n = 0 then none else some deletingState := by
  cases n with
  | zero => rfl
  | succ n =>
    rw [Script.lastState, Look.state?, outcome_goneLooks id (present n (Nat.lt_succ_self n))]
    rfl

/-- The run of the wait, by that of its looks. -/
theorem run_awaitDeleted (answered : AnswersReads respond kind id answers after) {times : Nat → Nat}
    {result : Except (WaitError ClientError) (Resolution Unit)} {time n : Nat}
    (run : (deletedConfig config timeout).runOn (goneLooks answers id) start =
      ⟨some (result, time), (List.range n).map fun i => (times i, ()), n⟩) :
    (awaitDeleted config kind id timeout start).run respond (after 0) =
      ⟨some (deletionResult kind id result, time), readsAt kind id times n, after n⟩ := by
  have waited := run_await_look (fun _ => (deletingState, ())) answered (.wait kind id .deletion) run
  have whole : awaitDeleted config kind id timeout =
      Operation.await (deletedConfig config timeout) (goneProbe kind id) (.wait kind id .deletion) >>=
        fun _ => Operation.succeed () := rfl
  rw [whole, Operation.run_bind_succeed, goneProbe, waited]
  rfl

/-- A read that finds the object decides nothing. -/
theorem undecided_of_present {k : Nat}
    (counts : (deletedConfig config timeout).Counts (goneLooks answers id) start k)
    (present : IsPresent (answers k)) :
    (deletedConfig config timeout).Undecided (goneLooks answers id) start k :=
  WaitConfig.undecided_of_pending counts (outcome_goneLooks id present) List.not_mem_nil
    (List.mem_singleton.mpr rfl)

section Timed

variable (shown : Clock.CanShow (start + timeout.nanos))
  (answered : AnswersReads respond kind id answers after) (positive : 0 < config.pause.nanos)

include shown positive in
/-- A wait for an object to be gone looks at the pace of the configuration, and goes on while the object is
there. -/
theorem polls_deletedConfig (answers : Nat → ReadAnswer kind) (id : ResourceId) :
    (deletedConfig config timeout).Polls (goneLooks answers id) start start config.pause
      (start + timeout.nanos) fun k => IsPresent (answers k) where
  regular := ⟨WaitConfig.firstLook_of_noDelay rfl start, rfl, fun _ => rfl⟩
  positive := positive
  deadline := deadline_waitConfig config shown
  undecided := undecided_of_present

include shown answered positive

/-- A wait that goes on until the look that decides ends with that. -/
theorem run_awaitDeleted_of_decides {n : Nat} {result : Except (WaitError ClientError) (Resolution Unit)}
    (due : Clock.afterSleeps config.pause.nanos start n < start + timeout.nanos)
    (present : ∀ i < n, IsPresent (answers i))
    (decides : (deletedConfig config timeout).Counts (goneLooks answers id) start n →
      (deletedConfig config timeout).Decides (goneLooks answers id) start n result
        ((deletedConfig config timeout).lookEnd (goneLooks answers id) start n)) :
    (awaitDeleted config kind id timeout start).run respond (after 0) =
      ⟨some (deletionResult kind id result, Clock.afterSleeps config.pause.nanos start n),
        readsAt kind id (Clock.afterSleeps config.pause.nanos start) (n + 1), after (n + 1)⟩ :=
  run_awaitDeleted answered
    ((polls_deletedConfig shown positive answers id).runOn_of_decides due present decides)

/-- The wait succeeds with the first read that finds the object gone. -/
theorem run_awaitDeleted_gone {n : Nat}
    (due : Clock.afterSleeps config.pause.nanos start n < start + timeout.nanos)
    (gone : GoneAt answers n) :
    (awaitDeleted config kind id timeout start).run respond (after 0) =
      ⟨some (.ok (), Clock.afterSleeps config.pause.nanos start n),
        readsAt kind id (Clock.afterSleeps config.pause.nanos start) (n + 1), after (n + 1)⟩ := by
  have missing : (goneLooks answers id n).outcome = .ok .missing := outcome_looks_absent gone.absent
  exact run_awaitDeleted_of_decides shown answered positive due gone.present fun counts =>
    .absent counts missing rfl

/-- The wait fails with the first read that fails. -/
theorem run_awaitDeleted_failed {n : Nat} {cause : ClientError}
    (due : Clock.afterSleeps config.pause.nanos start n < start + timeout.nanos)
    (present : ∀ i < n, IsPresent (answers i)) (fails : answers n = .error cause) :
    (awaitDeleted config kind id timeout start).run respond (after 0) =
      ⟨some (.error (.wait kind id .deletion (.probe cause)),
          Clock.afterSleeps config.pause.nanos start n),
        readsAt kind id (Clock.afterSleeps config.pause.nanos start) (n + 1), after (n + 1)⟩ := by
  have failure : (goneLooks answers id n).outcome = .error cause := outcome_looks_failed fails
  exact run_awaitDeleted_of_decides shown answered positive due present fun counts =>
    .failed cause counts failure

/-- The wait fails when its time is up and the object was present in all reads until then. -/
theorem run_awaitDeleted_expired {n : Nat}
    (late : start + timeout.nanos ≤ Clock.afterSleeps config.pause.nanos start n)
    (due : ∀ i < n, Clock.afterSleeps config.pause.nanos start i < start + timeout.nanos)
    (present : ∀ i < n, IsPresent (answers i)) :
    (awaitDeleted config kind id timeout start).run respond (after 0) =
      ⟨some (.error (.wait kind id .deletion
            (.timeout timeout [] (if n = 0 then none else some deletingState))),
          min (Clock.afterSleeps config.pause.nanos start n) (Clock.ceilMilli (start + timeout.nanos))),
        readsAt kind id (Clock.afterSleeps config.pause.nanos start) n, after n⟩ := by
  rw [run_awaitDeleted answered
    ((polls_deletedConfig shown positive answers id).runOn_of_late late due present),
    lastState_goneLooks id present]
  rfl

/-- Every wait for a deleted object ends in one of three ways, by the first answer that does not show the
object if that comes in time. -/
theorem deletionRun :
    DeletionRun kind id timeout answers after (Clock.afterSleeps config.pause.nanos start)
      (start + timeout.nanos) ((awaitDeleted config kind id timeout start).run respond (after 0)) := by
  obtain ⟨n, before, present, late | ⟨due, other⟩⟩ :=
    exists_first_stop (fun i => IsPresent (answers i)) (Clock.exists_late positive start _)
  · rw [run_awaitDeleted_expired shown answered positive late before present]
    exact .expired late before present
  · rcases found : answers n with cause | absent | object
    · rw [run_awaitDeleted_failed shown answered positive due present found]
      exact .failed due present found
    · have gone : GoneAt answers n := ⟨present, found⟩
      rw [run_awaitDeleted_gone shown answered positive due gone]
      exact .gone due gone
    · exact absurd ⟨object, found⟩ other

end Timed

/-- A wait does the same with other answers that tell the same of the object. -/
theorem DeletionRun.same_outcome {σ' : Type} {respond' : Plan.Responder Call Call.Reply σ'} {after' : Nat → σ'}
    {answers' : Nat → ReadAnswer kind} (shown : Clock.CanShow (start + timeout.nanos))
    (answered' : AnswersReads respond' kind id answers' after') (positive : 0 < config.pause.nanos)
    {run : Plan.Run Call σ (Except LifecycleError Unit × Nat)}
    (whole : DeletionRun kind id timeout answers after (Clock.afterSleeps config.pause.nanos start)
      (start + timeout.nanos) run) (same : ∀ k, presence (answers' k) = presence (answers k)) :
    ((awaitDeleted config kind id timeout start).run respond' (after' 0)).result = run.result ∧
      ((awaitDeleted config kind id timeout start).run respond' (after' 0)).calls = run.calls := by
  cases whole with
  | gone due gone =>
    rw [run_awaitDeleted_gone shown answered' positive due (gone.of_same same)]
    exact ⟨rfl, rfl⟩
  | @failed n cause due present fails =>
    have fails' : answers' n = .error cause := by
      rw [eq_error_iff, same, ← eq_error_iff]
      exact fails
    rw [run_awaitDeleted_failed shown answered' positive due (isPresent_of_same same present) fails']
    exact ⟨rfl, rfl⟩
  | expired late due present =>
    rw [run_awaitDeleted_expired shown answered' positive late due (isPresent_of_same same present)]
    exact ⟨rfl, rfl⟩

/-- **Waiting for a deleted object finds the first read that does not show it.** Reads of the object are
answered at once, in any way, and made after one pause and another. The wait succeeds if and only if a read
in time finds nothing and all reads before it find the object; nothing is read after it. It fails only with
the first read that fails, or because time runs out with the object still there. Answers that tell the
same of the object (there, gone, or the same failure) come to the same result at the same time with the
same reads, whatever the objects say. From a whole millisecond on, pauses of whole milliseconds are kept
as they are; otherwise each goes on to the next timer of the clock. -/
theorem deletion_waits_for_absence (answered : AnswersReads respond kind id answers after)
    (positive : 0 < config.pause.nanos) (shown : Clock.CanShow (start + timeout.nanos)) :
    let times := Clock.afterSleeps config.pause.nanos start
    let run := (awaitDeleted config kind id timeout start).run respond (after 0)
    DeletionOutcome kind id timeout answers after times (start + timeout.nanos) run ∧
      (Clock.IsMilli start → Clock.IsMilli config.pause.nanos →
        ∀ n, times n = start + n * config.pause.nanos) ∧
      (∀ (σ' : Type) (respond' : Plan.Responder Call Call.Reply σ') (after' : Nat → σ')
        (answers' : Nat → ReadAnswer kind), AnswersReads respond' kind id answers' after' →
        (∀ k, presence (answers' k) = presence (answers k)) →
        ((awaitDeleted config kind id timeout start).run respond' (after' 0)).result = run.result ∧
          ((awaitDeleted config kind id timeout start).run respond' (after' 0)).calls = run.calls) := by
  intro times run
  have whole := deletionRun shown answered positive
  refine ⟨?_, ?_, ?_⟩
  · apply whole.outcome
    intro n due gone
    exact run_awaitDeleted_gone shown answered positive due gone
  · intro wholeStart wholePause n
    rw [← Clock.ceilMilli_of_isMilli wholePause]
    exact Clock.afterSleeps_of_isMilli _ wholeStart n
  · intro σ' respond' after' answers' answered' same
    exact whole.same_outcome shown answered' positive same

/-- An object of any kind that is there in so many reads, and then gone. -/
def readsUntilGone (n : Nat) : (kind : Kind) → Nat → ReadAnswer kind := fun _ k =>
  .ok (if k < n then some default else none)

/-- Reads that are scripted to show an object so many times show it as gone at the next one. -/
theorem goneAt_readsUntilGone (n : Nat) (kind : Kind) : GoneAt (readsUntilGone n kind) n where
  present _ low := ⟨default, congrArg Except.ok (if_pos low)⟩
  absent := congrArg Except.ok (if_neg (Nat.lt_irrefl n))

/-- A disk that is gone in its third read, a millisecond before time is up. -/
theorem deletion_waits_for_absence_of_disk :
    let config : Config := { Config.standard with pause := .ofMillis 2 }
    let id : ResourceId := ⟨"n", "disk"⟩
    0 < config.pause.nanos ∧ Clock.CanShow (0 + (Duration.ofMillis 5).nanos) ∧
      (awaitDeleted config .dataVolume id (.ofMillis 5) 0).run (respondReads (readsUntilGone 2)) 0 =
        ⟨some (.ok (), 4000000),
          [(0, .get .dataVolume id), (2000000, .get .dataVolume id), (4000000, .get .dataVolume id)], 3⟩ := by
  intro config id
  have positive : 0 < config.pause.nanos := by decide
  have shown : Clock.CanShow (0 + (Duration.ofMillis 5).nanos) := by decide
  obtain ⟨outcome, times, -⟩ := deletion_waits_for_absence
    (answersReads_respondReads (readsUntilGone 2) .dataVolume id) positive shown
  have due : Clock.afterSleeps config.pause.nanos 0 2 < 0 + (Duration.ofMillis 5).nanos := by decide
  have whole : Clock.IsMilli config.pause.nanos := by decide
  have pauses : (fun n => 0 + n * config.pause.nanos) = fun n => n * 2000000 := by
    funext n
    exact Nat.zero_add _
  refine ⟨positive, shown, ?_⟩
  rw [outcome.succeeds 2 due (goneAt_readsUntilGone 2 .dataVolume), funext (times rfl whole), pauses]
  rfl

/-- Pauses of half a millisecond become whole ones, so a machine that is gone in the third read is not
found gone in a millisecond and a half. -/
theorem deletion_misses_absence :
    let config : Config := { Config.standard with pause := .ofNanos 500000 }
    let timeout : Duration := .ofNanos 1500000
    let id : ResourceId := ⟨"n", "a"⟩
    let run := (awaitDeleted config .virtualMachine id timeout 0).run (respondReads (readsUntilGone 2)) 0
    2 * config.pause.nanos < timeout.nanos ∧ GoneAt (readsUntilGone 2 .virtualMachine) 2 ∧
      run.result = some (.error (.wait .virtualMachine id .deletion
        (.timeout timeout [] (some "Deleting"))), 2000000) := by
  exact ⟨by decide, goneAt_readsUntilGone 2 .virtualMachine, rfl⟩

end Wait

/-! ### Reads in whole milliseconds -/

/-- Reads of an object, one every so many nanoseconds. -/
def readsFrom (kind : Kind) (id : ResourceId) (start step n : Nat) : List (Nat × Call) :=
  (List.range n).map fun i => (start + i * step, .get kind id)

/-- How waiting for an object to be gone ends, by the answers to reads that are made every `step` as
long as there is time. -/
inductive Fate {kind : Kind} (answers : Nat → ReadAnswer kind) (step budget : Nat) : Prop where
  | gone (n : Nat) (due : n * step < budget) (present : ∀ i < n, IsPresent (answers i))
      (absent : answers n = .ok none)
  | failed (n : Nat) (cause : ClientError) (due : n * step < budget)
      (present : ∀ i < n, IsPresent (answers i)) (fails : answers n = .error cause)
  | expired (n : Nat) (late : budget ≤ n * step) (due : ∀ i < n, i * step < budget)
      (present : ∀ i < n, IsPresent (answers i))

/-- Whatever the reads answer, within a budget the object is gone, or a read fails, or it is there at every
read that is due. One of the three is the first to happen. -/
theorem exists_fate {kind : Kind} (answers : Nat → ReadAnswer kind) {step : Nat} (positive : 0 < step)
    (budget : Nat) : Fate answers step budget := by
  have ends : ∃ n, budget ≤ n * step := ⟨budget, Nat.le_mul_of_pos_right budget positive⟩
  obtain ⟨n, due, present, late | ⟨early, other⟩⟩ :=
    exists_first_stop (fun i => IsPresent (answers i)) ends
  · exact .expired n late due present
  · cases answered : answers n with
    | error cause => exact .failed n cause early present answered
    | ok found =>
      cases found with
      | none => exact .gone n early present answered
      | some object => exact absurd ⟨object, answered⟩ other

section Stage

variable {σ : Type} {config : Config} {kind : Kind} {id : ResourceId} {timeout : Duration}
  {start : Nat} {respond : Plan.Responder Call Call.Reply σ} {after : Nat → σ}
  {answers : Nat → ReadAnswer kind}

/-- A wait from a timer on, with pauses, for a whole number of milliseconds that the clock can show. -/
structure DeletionTimely (config : Config) (timeout : Duration) (start : Nat) : Prop where
  pause : 0 < config.pause.nanos
  opening : Clock.IsMilli start
  budget : Clock.IsMilli timeout.nanos
  shown : Clock.CanShow (start + timeout.nanos)

variable (timely : DeletionTimely config timeout start)

include timely

/-- On the timer grid a read is due before the deadline just if so many pauses fit into the budget. -/
theorem DeletionTimely.due {n : Nat} (due : n * Clock.ceilMilli config.pause.nanos < timeout.nanos) :
    Clock.afterSleeps config.pause.nanos start n < start + timeout.nanos := by
  rw [Clock.afterSleeps_of_isMilli _ timely.opening]
  exact Nat.add_lt_add_left due start

theorem DeletionTimely.readsAt_eq (kind : Kind) (id : ResourceId) (n : Nat) :
    readsAt kind id (Clock.afterSleeps config.pause.nanos start) n =
      readsFrom kind id start (Clock.ceilMilli config.pause.nanos) n := by
  rw [funext (Clock.afterSleeps_of_isMilli config.pause.nanos timely.opening)]
  rfl

variable (answered : AnswersReads respond kind id answers after)

include answered

/-- If the object is gone at a read that is due, the wait succeeds at the time of this read. -/
theorem run_awaitDeleted_of_gone {n : Nat}
    (due : n * Clock.ceilMilli config.pause.nanos < timeout.nanos)
    (present : ∀ i < n, IsPresent (answers i)) (absent : answers n = .ok none) :
    (awaitDeleted config kind id timeout start).run respond (after 0) =
      ⟨some (.ok (), start + n * Clock.ceilMilli config.pause.nanos),
        readsFrom kind id start (Clock.ceilMilli config.pause.nanos) (n + 1), after (n + 1)⟩ := by
  rw [← timely.readsAt_eq, ← Clock.afterSleeps_of_isMilli _ timely.opening]
  exact run_awaitDeleted_gone timely.shown answered timely.pause (timely.due due) ⟨present, absent⟩

/-- If a read that is due fails, and the object was there until then, the wait fails with its cause at the
time of this read. -/
theorem run_awaitDeleted_of_failed {n : Nat} {cause : ClientError}
    (due : n * Clock.ceilMilli config.pause.nanos < timeout.nanos)
    (present : ∀ i < n, IsPresent (answers i)) (fails : answers n = .error cause) :
    (awaitDeleted config kind id timeout start).run respond (after 0) =
      ⟨some (.error (.wait kind id .deletion (.probe cause)),
          start + n * Clock.ceilMilli config.pause.nanos),
        readsFrom kind id start (Clock.ceilMilli config.pause.nanos) (n + 1), after (n + 1)⟩ := by
  rw [← timely.readsAt_eq, ← Clock.afterSleeps_of_isMilli _ timely.opening]
  exact run_awaitDeleted_failed timely.shown answered timely.pause (timely.due due) present fails

/-- If the object is there at every read that is due, the wait fails for its budget, at its deadline. -/
theorem run_awaitDeleted_of_expired {n : Nat}
    (late : timeout.nanos ≤ n * Clock.ceilMilli config.pause.nanos)
    (due : ∀ i < n, i * Clock.ceilMilli config.pause.nanos < timeout.nanos)
    (present : ∀ i < n, IsPresent (answers i)) :
    ∃ lastState,
      (awaitDeleted config kind id timeout start).run respond (after 0) =
        ⟨some (.error (.wait kind id .deletion (.timeout timeout [] lastState)),
            start + timeout.nanos),
          readsFrom kind id start (Clock.ceilMilli config.pause.nanos) n, after n⟩ := by
  have lateLook : start + timeout.nanos ≤ Clock.afterSleeps config.pause.nanos start n := by
    rw [Clock.afterSleeps_of_isMilli _ timely.opening]
    exact Nat.add_le_add_left late start
  have expires : min (Clock.afterSleeps config.pause.nanos start n)
      (Clock.ceilMilli (start + timeout.nanos)) = start + timeout.nanos := by
    rw [Clock.ceilMilli_of_isMilli (timely.opening.add timely.budget)]
    exact Nat.min_eq_right lateLook
  rw [run_awaitDeleted_expired timely.shown answered timely.pause lateLook
    (fun i low => timely.due (due i low)) present, timely.readsAt_eq, expires]
  exact ⟨_, rfl⟩

end Stage

end VirtLifecycle.Lifecycle
