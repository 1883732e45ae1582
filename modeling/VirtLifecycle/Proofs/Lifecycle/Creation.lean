/-
Module: VirtLifecycle.Proofs.Lifecycle.Creation
Purpose: Waiting for new objects, where all reads are answered at once. The answers alone tell how it
  ends: an object is there that says that it has been created, or one in a state that is not expected, a
  read has failed, or time has run out. Objects that are missing or still being created are waited for.
Main exports: Lifecycle.GoesOn, Lifecycle.Settles, Lifecycle.CreationRun, Lifecycle.creationRun,
  Lifecycle.creation_settles, Lifecycle.creation_misses_read, Lifecycle.undocumented_phase_ends,
  Lifecycle.undocumented_phase_goes_on
-/
import VirtLifecycle.Proofs.Lifecycle.Failure
import VirtLifecycle.Proofs.Lifecycle.Reads
import VirtLifecycle.Proofs.Resource.Phase

namespace VirtLifecycle.Lifecycle

section Answers

variable {kind : Kind}

/-- With such an answer the wait for a new object goes on: nothing is there yet, or an object that is
labelled as being created or not at all. -/
def GoesOn (answer : ReadAnswer kind) : Prop :=
  answer = .ok none ∨ ∃ object, answer = .ok (some object) ∧
    (object.creationState.label = "Creating" ∨ object.creationState.label = "")

/-- Read `n` is the first with which the wait does not go on, and it shows an object that says that it has
been created. -/
structure Settles (answers : Nat → ReadAnswer kind) (n : Nat) (object : Resource kind) : Prop where
  earlier : ∀ i < n, GoesOn (answers i)
  shown : answers n = .ok (some object)
  succeeded : object.HasSucceeded

/-- An object with which the wait does not go on has been created or is in an unexpected state. -/
theorem succeeded_or_unexpected {object : Resource kind} {answer : ReadAnswer kind}
    (shown : answer = .ok (some object)) (halts : ¬ GoesOn answer) :
    object.HasSucceeded ∨
      object.creationState.label ∉ ["Creating", ""] ∧ object.creationState.label ∉ ["Succeeded"] := by
  by_cases succeeded : object.HasSucceeded
  · exact .inl succeeded
  · right
    constructor
    · intro pending
      rcases List.mem_cons.mp pending with creating | unset
      · exact halts (.inr ⟨object, shown, .inl creating⟩)
      · exact halts (.inr ⟨object, shown, .inr (List.mem_singleton.mp unset)⟩)
    · intro target
      exact succeeded (object.label_eq_succeeded_iff.mp (List.mem_singleton.mp target))

end Answers

/-- A machine that is missing at first, then there, and ready in the third read. -/
def machineReads : (kind : Kind) → Nat → ReadAnswer kind
  | .virtualMachine, 0 => .ok none
  | .virtualMachine, 1 => .ok (some default)
  | .virtualMachine, _ => .ok (some ⟨{}, {}, some { created := true, ready := true }⟩)
  | _, _ => .ok none

/-- The machine of the script settles at the third read, when it is created and ready. -/
theorem settles_machineReads :
    Settles (machineReads .virtualMachine) 2 ⟨{}, {}, some { created := true, ready := true }⟩ where
  earlier i low := by
    rcases i with - | - | i
    · exact .inl rfl
    · exact .inr ⟨default, rfl, .inl rfl⟩
    · exact absurd low (by omega)
  shown := rfl
  succeeded := ⟨_, rfl, rfl, rfl⟩

section Wait

variable {σ : Type} {config : Config} {kind : Kind} {id : ResourceId} {timeout : Duration}
  {start : Nat} {respond : Plan.Responder Call Call.Reply σ} {after : Nat → σ}
  {answers : Nat → ReadAnswer kind}

/-- What the end of a wait means for a new object. -/
def creationResult (kind : Kind) (id : ResourceId) :
    Except (WaitError ClientError) (Resolution (Resource kind)) → Except LifecycleError (Resource kind)
  | .ok (.reached object) => .ok object
  | .ok .absent => .error (.notFound kind id)
  | .error cause => .error (.wait kind id .creation cause)

/-- The looks of a wait for a new object. -/
def createdLooks (answers : Nat → ReadAnswer kind) (id : ResourceId) :
    Script ClientError (Resource kind) :=
  looks id (fun object => (object.creationState.label, object)) answers

/-- Where a read finds an object, the look shows the label of its creation state. -/
theorem outcome_createdLooks (id : ResourceId) {k : Nat} {object : Resource kind}
    (found : answers k = .ok (some object)) :
    (createdLooks answers id k).outcome = .ok (.found object.creationState.label object) :=
  outcome_looks_found found

/-- The run of the wait, by that of its looks. -/
theorem run_awaitCreated (answered : AnswersReads respond kind id answers after) {times : Nat → Nat}
    {result : Except (WaitError ClientError) (Resolution (Resource kind))} {time n : Nat}
    (run : (createdConfig config timeout).runOn (createdLooks answers id) start =
      ⟨some (result, time), (List.range n).map fun i => (times i, ()), n⟩) :
    (awaitCreated config kind id timeout start).run respond (after 0) =
      ⟨some (creationResult kind id result, time), readsAt kind id times n, after n⟩ := by
  have means : creationResult kind id result =
      reachedResult (.notFound kind id) (.wait kind id .creation) result := by
    rcases result with cause | object | absent
    all_goals rfl
  rw [means]
  exact run_await_reached _ answered (.notFound kind id) (.wait kind id .creation) run

/-- The whole run of a wait for a new object, whose reads are made at the given times as long as these are
below the limit. -/
inductive CreationRun (kind : Kind) (id : ResourceId) (timeout : Duration) (answers : Nat → ReadAnswer kind)
    (after : Nat → σ) (times : Nat → Nat) (limit : Nat) :
    Plan.Run Call σ (Except LifecycleError (Resource kind) × Nat) → Prop where
  | settled {n : Nat} {object : Resource kind} (due : times n < limit) (settles : Settles answers n object) :
      CreationRun kind id timeout answers after times limit
        ⟨some (.ok object, times n), readsAt kind id times (n + 1), after (n + 1)⟩
  | unexpected {n : Nat} {object : Resource kind} (due : times n < limit)
      (earlier : ∀ i < n, GoesOn (answers i)) (shown : answers n = .ok (some object))
      (pending : object.creationState.label ∉ ["Creating", ""])
      (target : object.creationState.label ∉ ["Succeeded"]) :
      CreationRun kind id timeout answers after times limit
        ⟨some (.error (.wait kind id .creation
            (.unexpected object.creationState.label ["Creating", ""] ["Succeeded"])), times n),
          readsAt kind id times (n + 1), after (n + 1)⟩
  | failed {n : Nat} {cause : ClientError} (due : times n < limit) (earlier : ∀ i < n, GoesOn (answers i))
      (fails : answers n = .error cause) :
      CreationRun kind id timeout answers after times limit
        ⟨some (.error (.wait kind id .creation (.probe cause)), times n), readsAt kind id times (n + 1),
          after (n + 1)⟩
  | expired {n : Nat} {lastState : Option String} (late : limit ≤ times n)
      (due : ∀ i < n, times i < limit) (earlier : ∀ i < n, GoesOn (answers i)) :
      CreationRun kind id timeout answers after times limit
        ⟨some (.error (.wait kind id .creation (.timeout timeout ["Succeeded"] lastState)),
            min (times n) (Clock.ceilMilli limit)),
          readsAt kind id times n, after n⟩

/-- What a wait for a new object comes to whose reads are made at the given times, as long as these are
below the limit. -/
structure CreationOutcome (kind : Kind) (id : ResourceId) (answers : Nat → ReadAnswer kind)
    (after : Nat → σ) (times : Nat → Nat) (limit : Nat)
    (run : Plan.Run Call σ (Except LifecycleError (Resource kind) × Nat)) : Prop where
  ends : run.result.isSome
  /-- the first read that shows a created object ends the wait, if only absences and objects that are
  still being created come before it -/
  succeeds : ∀ n object, times n < limit → Settles answers n object →
    run = ⟨some (.ok object, times n), readsAt kind id times (n + 1), after (n + 1)⟩
  /-- without such a read there is no success -/
  sound : ∀ object time, run.result = some (.ok object, time) →
    ∃ n, times n < limit ∧ Settles answers n object
  /-- every failure is one of the wait, and none is that the object is missing -/
  fails : ∀ error time, run.result = some (.error error, time) →
    ∃ cause, error = .wait kind id .creation cause ∧ ∀ checks, cause ≠ .missing checks

/-- From the run as a whole and from what it comes to where the object settles in time, the outcome is told
in all cases: a failed read, a state that is none to wait in, or the budget ends it otherwise. -/
theorem CreationRun.outcome {times : Nat → Nat} {limit : Nat}
    {run : Plan.Run Call σ (Except LifecycleError (Resource kind) × Nat)}
    (whole : CreationRun kind id timeout answers after times limit run)
    (succeeds : ∀ n object, times n < limit → Settles answers n object →
      run = ⟨some (.ok object, times n), readsAt kind id times (n + 1), after (n + 1)⟩) :
    CreationOutcome kind id answers after times limit run := by
  cases whole with
  | settled due settles =>
    refine ⟨rfl, succeeds, ?_, ?_⟩
    · rintro _ _ ⟨⟩
      exact ⟨_, due, settles⟩
    · rintro _ _ ⟨⟩
  | unexpected | failed | expired =>
    refine ⟨rfl, succeeds, ?_, ?_⟩
    · rintro _ _ ⟨⟩
    · rintro _ _ ⟨⟩
      exact ⟨_, rfl, nofun⟩

/-- An answer with which the wait goes on decides nothing. -/
theorem undecided_of_goesOn {k : Nat}
    (counts : (createdConfig config timeout).Counts (createdLooks answers id) start k)
    (goesOn : GoesOn (answers k)) :
    (createdConfig config timeout).Undecided (createdLooks answers id) start k := by
  rcases goesOn with absent | ⟨object, found, label⟩
  · have missing : (createdLooks answers id k).outcome = .ok .missing := outcome_looks_absent absent
    refine WaitConfig.undecided_of_tolerated counts missing (List.cons_ne_nil _ _) ?_
    rintro limit ⟨⟩
  · have sighting := outcome_createdLooks id found
    have pending : object.creationState.label ∈ ["Creating", ""] := by
      rcases label with creating | unset
      · exact List.mem_cons.mpr (.inl creating)
      · exact List.mem_cons_of_mem _ (List.mem_singleton.mpr unset)
    have target : object.creationState.label ∉ ["Succeeded"] := by
      intro succeeded
      rcases label with label | label
      all_goals
        rw [label] at succeeded
        exact absurd succeeded (by decide)
    exact WaitConfig.undecided_of_pending counts sighting target pending

section Timed

variable (answered : AnswersReads respond kind id answers after) (positive : 0 < config.pause.nanos)
  (shown : Clock.CanShow (start + timeout.nanos))

include positive shown in
/-- A wait for a new object looks at the pace of the configuration, and goes on while the object is missing,
or is there and being created. -/
theorem polls_createdConfig (answers : Nat → ReadAnswer kind) (id : ResourceId) :
    (createdConfig config timeout).Polls (createdLooks answers id) start start config.pause
      (start + timeout.nanos) fun k => GoesOn (answers k) where
  regular := ⟨WaitConfig.firstLook_of_noDelay rfl start, rfl, fun _ => rfl⟩
  positive := positive
  deadline := deadline_waitConfig config shown
  undecided := undecided_of_goesOn

include answered positive shown

/-- A wait that goes on until the look that decides ends with that. -/
theorem run_awaitCreated_of_decides {n : Nat}
    {result : Except (WaitError ClientError) (Resolution (Resource kind))}
    (due : Clock.afterSleeps config.pause.nanos start n < start + timeout.nanos)
    (earlier : ∀ i < n, GoesOn (answers i))
    (decides : (createdConfig config timeout).Counts (createdLooks answers id) start n →
      (createdConfig config timeout).Decides (createdLooks answers id) start n result
        ((createdConfig config timeout).lookEnd (createdLooks answers id) start n)) :
    (awaitCreated config kind id timeout start).run respond (after 0) =
      ⟨some (creationResult kind id result, Clock.afterSleeps config.pause.nanos start n),
        readsAt kind id (Clock.afterSleeps config.pause.nanos start) (n + 1), after (n + 1)⟩ :=
  run_awaitCreated answered
    ((polls_createdConfig positive shown answers id).runOn_of_decides due earlier decides)

/-- The wait succeeds with the first read that does not let it go on, if that shows a created object. -/
theorem run_awaitCreated_of_settled {n : Nat} {object : Resource kind}
    (due : Clock.afterSleeps config.pause.nanos start n < start + timeout.nanos)
    (settles : Settles answers n object) :
    (awaitCreated config kind id timeout start).run respond (after 0) =
      ⟨some (.ok object, Clock.afterSleeps config.pause.nanos start n),
        readsAt kind id (Clock.afterSleeps config.pause.nanos start) (n + 1), after (n + 1)⟩ := by
  have sighting := outcome_createdLooks id settles.shown
  have target : object.creationState.label ∈ ["Succeeded"] :=
    List.mem_singleton.mpr (object.label_eq_succeeded_iff.mpr settles.succeeded)
  exact run_awaitCreated_of_decides answered positive shown due settles.earlier fun counts =>
    .reached _ object counts sighting target

/-- The wait fails with the first read that does not let it go on, if that shows another object. -/
theorem run_awaitCreated_of_unexpected {n : Nat} {object : Resource kind}
    (due : Clock.afterSleeps config.pause.nanos start n < start + timeout.nanos)
    (earlier : ∀ i < n, GoesOn (answers i)) (found : answers n = .ok (some object))
    (pending : object.creationState.label ∉ ["Creating", ""])
    (target : object.creationState.label ∉ ["Succeeded"]) :
    (awaitCreated config kind id timeout start).run respond (after 0) =
      ⟨some (.error (.wait kind id .creation
          (.unexpected object.creationState.label ["Creating", ""] ["Succeeded"])),
            Clock.afterSleeps config.pause.nanos start n),
        readsAt kind id (Clock.afterSleeps config.pause.nanos start) (n + 1), after (n + 1)⟩ := by
  have sighting := outcome_createdLooks id found
  exact run_awaitCreated_of_decides answered positive shown due earlier fun counts =>
    .unexpected _ object counts sighting target pending

/-- The wait fails with a read that fails. -/
theorem run_awaitCreated_of_failed {n : Nat} {cause : ClientError}
    (due : Clock.afterSleeps config.pause.nanos start n < start + timeout.nanos)
    (earlier : ∀ i < n, GoesOn (answers i)) (fails : answers n = .error cause) :
    (awaitCreated config kind id timeout start).run respond (after 0) =
      ⟨some (.error (.wait kind id .creation (.probe cause)),
          Clock.afterSleeps config.pause.nanos start n),
        readsAt kind id (Clock.afterSleeps config.pause.nanos start) (n + 1), after (n + 1)⟩ := by
  have failure : (createdLooks answers id n).outcome = .error cause := outcome_looks_failed fails
  exact run_awaitCreated_of_decides answered positive shown due earlier fun counts =>
    .failed cause counts failure

/-- Every wait for a new object ends in one of four ways, by the first answer that does not let it go on if
that comes in time. -/
theorem creationRun :
    CreationRun kind id timeout answers after (Clock.afterSleeps config.pause.nanos start)
      (start + timeout.nanos) ((awaitCreated config kind id timeout start).run respond (after 0)) := by
  obtain ⟨n, before, earlier, late | ⟨due, halts⟩⟩ :=
    exists_first_stop (fun i => GoesOn (answers i)) (Clock.exists_late positive start _)
  · rw [run_awaitCreated answered
      ((polls_createdConfig positive shown answers id).runOn_of_late late before earlier)]
    exact .expired late before earlier
  · rcases found : answers n with cause | absent | object
    · rw [run_awaitCreated_of_failed answered positive shown due earlier found]
      exact .failed due earlier found
    · exact absurd (.inl found) halts
    · rcases succeeded_or_unexpected found halts with succeeded | ⟨pending, target⟩
      · have settles : Settles answers n object := ⟨earlier, found, succeeded⟩
        rw [run_awaitCreated_of_settled answered positive shown due settles]
        exact .settled due settles
      · rw [run_awaitCreated_of_unexpected answered positive shown due earlier found pending target]
        exact .unexpected due earlier found pending target

end Timed

/-- A creation that is waited for goes on as the wait does, and pairs what that finds with the id. -/
theorem run_create_of_wait {object submitted accepted : Resource kind} {before between : σ} {begun : Nat}
    {takes : Duration} (waits : config.wait = true) (prepares : prepare config object = .ok (id, submitted))
    (replied : respond before begun (.create submitted) = ((.ok accepted, takes), between)) :
    let run := (awaitCreated config kind id (config.timeouts.create kind)
      (Clock.sleepUntil begun (begun + takes.nanos))).run respond between
    (Lifecycle.create config object begun).run respond before =
      ⟨run.result.map fun (result, time) => (result.map (id, ·), time),
        (begun, .create submitted) :: run.calls, run.final⟩ := by
  intro run
  have goesOn : afterCreate config id accepted =
      awaitCreated config kind id (config.timeouts.create kind) >>= fun settled =>
        Operation.succeed (id, settled) := if_pos waits
  have later := Operation.run_bind_succeed respond between
    (Clock.sleepUntil begun (begun + takes.nanos))
    (awaitCreated config kind id (config.timeouts.create kind)) fun settled => (id, settled)
  rw [← goesOn] at later
  rw [create_of_prepared prepares, Operation.run_call_bind, replied]
  exact congrArg (Plan.Run.after (begun, .create submitted)) later

/-- **Waiting for a new object finds the first one that has been created.** Reads of the object are answered
at once, in any way, and made after one pause and another. The wait succeeds if and only if a read in time
shows an object that says that it has been created, and before it there are only absences and objects that
are still being created; it comes back with that object at the time of that read, and nothing is read after
it. However often the object is missing, the wait does not fail for that. A creation that is waited for
answers the same object with its id. From a whole millisecond on, pauses of whole milliseconds are kept as
they are; otherwise each goes on to the next timer of the clock. -/
theorem creation_settles (answered : AnswersReads respond kind id answers after)
    (positive : 0 < config.pause.nanos) (shown : Clock.CanShow (start + timeout.nanos)) :
    let times := Clock.afterSleeps config.pause.nanos start
    let run := (awaitCreated config kind id timeout start).run respond (after 0)
    CreationOutcome kind id answers after times (start + timeout.nanos) run ∧
      (Clock.IsMilli start → Clock.IsMilli config.pause.nanos →
        ∀ n, times n = start + n * config.pause.nanos) ∧
      (∀ (object submitted accepted : Resource kind) (before : σ) (begun : Nat) (takes : Duration),
        config.wait = true → timeout = config.timeouts.create kind →
        prepare config object = .ok (id, submitted) →
        respond before begun (.create submitted) = ((.ok accepted, takes), after 0) →
        start = Clock.sleepUntil begun (begun + takes.nanos) →
        (Lifecycle.create config object begun).run respond before =
          ⟨run.result.map fun (result, time) => (result.map (id, ·), time),
            (begun, .create submitted) :: run.calls, run.final⟩) := by
  intro times run
  refine ⟨?_, fun whole pause n => ?_, ?_⟩
  · apply (creationRun answered positive shown).outcome
    intro n object due settles
    exact run_awaitCreated_of_settled answered positive shown due settles
  · rw [← Clock.ceilMilli_of_isMilli pause]
    exact Clock.afterSleeps_of_isMilli _ whole n
  · rintro object submitted accepted before begun takes waits rfl prepares replied rfl
    exact run_create_of_wait waits prepares replied

/-- The machine is created, and found ready a millisecond before time is up. -/
theorem creation_settles_of_machine :
    let config : Config :=
      { Config.standard with
        pause := .ofMillis 2
        timeouts := { Timeouts.standard with virtualMachineCreate := .ofMillis 5 } }
    let object : Resource .virtualMachine := ⟨{ name := some "vm" }, {}, none⟩
    let ready : Resource .virtualMachine := ⟨{}, {}, some { created := true, ready := true }⟩
    let id : ResourceId := ⟨"default", "vm"⟩
    0 < config.pause.nanos ∧ Clock.CanShow (0 + config.timeouts.virtualMachineCreate.nanos) ∧
      (Lifecycle.create config object 0).run (respondReads machineReads) 0 =
        ⟨some (.ok (id, ready), 4000000),
          [(0, .create (object.inSpace "default")), (0, .get .virtualMachine id),
            (2000000, .get .virtualMachine id), (4000000, .get .virtualMachine id)], 3⟩ := by
  intro config object ready id
  have positive : 0 < config.pause.nanos := by decide
  have shown : Clock.CanShow (0 + config.timeouts.virtualMachineCreate.nanos) := by decide
  obtain ⟨outcome, times, created⟩ := creation_settles
    (answersReads_respondReads machineReads .virtualMachine id) positive shown
  have due : Clock.afterSleeps config.pause.nanos 0 2 < 0 + config.timeouts.virtualMachineCreate.nanos := by
    decide
  have whole : Clock.IsMilli config.pause.nanos := by decide
  have pauses : (fun n => 0 + n * config.pause.nanos) = fun n => n * 2000000 := by
    funext n
    exact Nat.zero_add _
  refine ⟨positive, shown, ?_⟩
  rw [created object (object.inSpace "default") _ 0 0 .zero rfl rfl rfl rfl rfl,
    outcome.succeeds 2 ready due settles_machineReads, funext (times rfl whole), pauses]
  rfl

/-- Pauses of half a millisecond become whole ones, so a machine that is ready in the third read is not
found in a millisecond and a half. -/
theorem creation_misses_read :
    let config : Config := { Config.standard with pause := .ofNanos 500000 }
    let timeout : Duration := .ofNanos 1500000
    let id : ResourceId := ⟨"n", "a"⟩
    let run := (awaitCreated config .virtualMachine id timeout 0).run (respondReads machineReads) 0
    2 * config.pause.nanos < timeout.nanos ∧
      Settles (machineReads .virtualMachine) 2 ⟨{}, {}, some { created := true, ready := true }⟩ ∧
      run.result = some (.error (.wait .virtualMachine id .creation
        (.timeout timeout ["Succeeded"] (some "Creating"))), 2000000) := by
  exact ⟨by decide, settles_machineReads, rfl⟩

/-! ### Undocumented phases -/

/-- An object in a phase that is not documented, or failed, lets the wait go on only if the phase is spelled
as the label of objects that are being created. -/
theorem goesOn_iff_of_undocumented {answer : ReadAnswer kind} {object : Resource kind} {phase : String}
    (found : answer = .ok (some object)) (raw : object.rawPhase? = some phase)
    (undocumented : phase ∉ kind.documentedPhases ∨ phase = "Failed") :
    GoesOn answer ↔ phase = "Creating" := by
  have label := Resource.label_of_undocumented raw undocumented
  constructor
  · rintro (absent | ⟨other, shown, creating | unset⟩)
    · cases found.symm.trans absent
    · cases found.symm.trans shown
      exact label.symm.trans creating
    · cases found.symm.trans shown
      exact absurd (label.symm.trans unset) (Resource.ne_of_undocumented raw undocumented).1
  · rintro rfl
    exact .inr ⟨object, found, .inl label⟩

/-- A disk that is missing at first, and then always in the given phase. -/
def diskReads (phase : String) : (kind : Kind) → Nat → ReadAnswer kind
  | .dataVolume, _ + 1 => .ok (some ⟨{}, {}, some { phase := some phase }⟩)
  | _, _ => .ok none

/-- **Undocumented phases end the wait, all but one.** Let all reads before read `n` find the object missing
or still being created, and let that read come in time and show an object in a phase that is not documented,
or failed. Unless the phase is spelled "Creating", the wait fails at that very read and tells of the phase
as it is spelled, and nothing is read after it. With the phase "Creating" the wait goes on. -/
theorem undocumented_phase_ends (answered : AnswersReads respond kind id answers after)
    (positive : 0 < config.pause.nanos) (shown : Clock.CanShow (start + timeout.nanos)) {n : Nat}
    {object : Resource kind} {phase : String}
    (due : Clock.afterSleeps config.pause.nanos start n < start + timeout.nanos)
    (earlier : ∀ i < n, GoesOn (answers i)) (found : answers n = .ok (some object))
    (raw : object.rawPhase? = some phase)
    (undocumented : phase ∉ kind.documentedPhases ∨ phase = "Failed") :
    let times := Clock.afterSleeps config.pause.nanos start
    (phase ≠ "Creating" →
      (awaitCreated config kind id timeout start).run respond (after 0) =
        ⟨some (.error (.wait kind id .creation (.unexpected phase ["Creating", ""] ["Succeeded"])), times n),
          readsAt kind id times (n + 1), after (n + 1)⟩) ∧
      (GoesOn (answers n) ↔ phase = "Creating") := by
  have goesOn := goesOn_iff_of_undocumented found raw undocumented
  refine ⟨fun other => ?_, goesOn⟩
  have label := Resource.label_of_undocumented raw undocumented
  obtain ⟨notUnset, unsettled⟩ := Resource.ne_of_undocumented raw undocumented
  have pending : object.creationState.label ∉ ["Creating", ""] := by
    rw [label]
    exact List.not_mem_cons_of_ne_of_not_mem other (mt List.mem_singleton.mp notUnset)
  have target : object.creationState.label ∉ ["Succeeded"] := by
    rw [label]
    exact mt List.mem_singleton.mp unsettled
  rw [run_awaitCreated_of_unexpected answered positive shown due earlier found pending target, label]

/-- A disk in a phase that is not documented ends the wait in its second read. -/
theorem undocumented_phase_ends_of_disk :
    let id : ResourceId := ⟨"n", "disk"⟩
    0 < Config.standard.pause.nanos ∧ Clock.CanShow (0 + (Duration.ofSeconds 3).nanos) ∧
      "Paused" ∉ Kind.dataVolume.documentedPhases ∧
      (awaitCreated .standard .dataVolume id (.ofSeconds 3) 0).run (respondReads (diskReads "Paused")) 0 =
        ⟨some (.error (.wait .dataVolume id .creation
            (.unexpected "Paused" ["Creating", ""] ["Succeeded"])), 2000000000),
          [(0, .get .dataVolume id), (2000000000, .get .dataVolume id)], 2⟩ := by
  intro id
  have positive : 0 < Config.standard.pause.nanos := by decide
  have shown : Clock.CanShow (0 + (Duration.ofSeconds 3).nanos) := by decide
  have unknown : "Paused" ∉ Kind.dataVolume.documentedPhases := by decide
  have due : Clock.afterSleeps Config.standard.pause.nanos 0 1 < 0 + (Duration.ofSeconds 3).nanos := by
    decide
  have earlier : ∀ i < 1, GoesOn (diskReads "Paused" .dataVolume i) := by
    intro i low
    rw [Nat.lt_one_iff.mp low]
    exact .inl rfl
  have answered := answersReads_respondReads (diskReads "Paused") .dataVolume id
  obtain ⟨ends, -⟩ := undocumented_phase_ends answered positive shown due earlier rfl rfl (.inl unknown)
  refine ⟨positive, shown, unknown, ?_⟩
  rw [ends (by decide)]
  rfl

/-- A disk in the undocumented phase "Creating" in its first read is waited for as if it was still being
created. -/
theorem undocumented_phase_goes_on :
    let creating : Resource .dataVolume := ⟨{}, {}, some { phase := some "Creating" }⟩
    let filled : Resource .dataVolume := ⟨{}, {}, some { phase := some "Succeeded" }⟩
    let reads : (kind : Kind) → Nat → ReadAnswer kind := fun kind k =>
      match kind with
      | .dataVolume => .ok (some (if k = 0 then creating else filled))
      | _ => .ok none
    "Creating" ∉ Kind.dataVolume.documentedPhases ∧ creating.rawPhase? = some "Creating" ∧
      (awaitCreated .standard .dataVolume ⟨"n", "a"⟩ (.ofSeconds 3) 0).run (respondReads reads) 0 =
        ⟨some (.ok filled, 2000000000),
          [(0, .get .dataVolume ⟨"n", "a"⟩), (2000000000, .get .dataVolume ⟨"n", "a"⟩)], 2⟩ := by
  exact ⟨by decide, rfl, rfl⟩

end Wait

end VirtLifecycle.Lifecycle
