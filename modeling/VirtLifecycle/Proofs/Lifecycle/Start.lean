/-
Module: VirtLifecycle.Proofs.Lifecycle.Start
Purpose: Waiting for a machine that was just started to run, where all reads are answered at once. It is
  left alone for five seconds, then read again and again. It may be missing three times in a row, and go
  through the phases before running; a fourth absence in a row, any other phase or a read that fails ends
  the wait.
Main exports: Lifecycle.StartGoesOn, Lifecycle.StartDecides, Lifecycle.goesOn_or_decides,
  Lifecycle.StartRun, Lifecycle.startRun, Lifecycle.start_awaits_running, Lifecycle.start_misses_running
-/
import VirtLifecycle.Proofs.Lifecycle.Reads
import VirtLifecycle.Proofs.Resource.Phase

namespace VirtLifecycle.Lifecycle

/-- The phase of a running machine as it is spelled in the report, empty if none is reported. -/
def reportedPhase (object : Resource .virtualMachineInstance) : String := object.rawPhase?.getD ""

/-- The phases before running, as they are spelled. -/
def startingPhases : List String := ["Pending", "Scheduling", "Scheduled", ""]

theorem reportedPhase_eq_running_iff (object : Resource .virtualMachineInstance) :
    reportedPhase object = "Running" ↔ object.rawPhase? = some "Running" := by
  rw [reportedPhase]
  cases object.rawPhase? with
  | none => decide
  | some phase => rw [Option.getD_some, Option.some.injEq]

section Answers

variable (id : ResourceId) (answers : Nat → ReadAnswer .virtualMachineInstance) (n : Nat)

/-- Read `n` finds nothing, or a machine that does not run yet. -/
def IsStarting : Prop :=
  answers n = .ok none ∨ ∃ object, answers n = .ok (some object) ∧ reportedPhase object ∈ startingPhases

/-- Read `n` and the three reads before it all find nothing. -/
def FourthAbsence : Prop := 3 ≤ n ∧ ∀ i ≤ 3, answers (n - i) = .ok none

/-- With read `n` the wait goes on. -/
structure StartGoesOn : Prop where
  starting : IsStarting answers n
  tolerated : ¬ FourthAbsence answers n

/-- How read `n` ends the wait, if those before it have not. -/
inductive StartDecides : Except LifecycleError (Resource .virtualMachineInstance) → Prop where
  | running (object : Resource .virtualMachineInstance) (shown : answers n = .ok (some object))
      (runs : object.rawPhase? = some "Running") : StartDecides (.ok object)
  | unexpected (object : Resource .virtualMachineInstance) (shown : answers n = .ok (some object))
      (starting : reportedPhase object ∉ startingPhases) (running : reportedPhase object ≠ "Running") :
      StartDecides (.error (.wait .virtualMachineInstance id .start
        (.unexpected (reportedPhase object) startingPhases ["Running"])))
  | missing (absent : FourthAbsence answers n) :
      StartDecides (.error (.wait .virtualMachineInstance id .start (.missing 4)))
  | failed (cause : ClientError) (fails : answers n = .error cause) :
      StartDecides (.error (.wait .virtualMachineInstance id .start (.probe cause)))

/-- Every read either lets the wait go on or ends it. -/
theorem goesOn_or_decides : StartGoesOn answers n ∨ ∃ result, StartDecides id answers n result := by
  rcases found : answers n with cause | absent | object
  · exact .inr ⟨_, .failed cause found⟩
  · by_cases fourth : FourthAbsence answers n
    · exact .inr ⟨_, .missing fourth⟩
    · exact .inl ⟨.inl found, fourth⟩
  · by_cases starting : reportedPhase object ∈ startingPhases
    · refine .inl ⟨.inr ⟨object, found, starting⟩, ?_⟩
      rintro ⟨-, absent⟩
      cases found.symm.trans (absent 0 (Nat.zero_le 3))
    · by_cases running : reportedPhase object = "Running"
      · exact .inr ⟨_, .running object found ((reportedPhase_eq_running_iff object).mp running)⟩
      · exact .inr ⟨_, .unexpected object found starting running⟩

end Answers

section Outcomes

variable {σ : Type} {id : ResourceId} {timeout : Duration}
  {answers : Nat → ReadAnswer .virtualMachineInstance} {after : Nat → σ} {times : Nat → Nat} {limit : Nat}
  {run : Plan.Run Call σ (Except LifecycleError (Resource .virtualMachineInstance) × Nat)}

/-- The whole run of a wait for a machine to run, whose reads are made at the given times as long as these
are below the limit. -/
inductive StartRun (id : ResourceId) (timeout : Duration)
    (answers : Nat → ReadAnswer .virtualMachineInstance) (after : Nat → σ) (times : Nat → Nat)
    (limit : Nat) :
    Plan.Run Call σ (Except LifecycleError (Resource .virtualMachineInstance) × Nat) → Prop where
  | decided {n : Nat} {result : Except LifecycleError (Resource .virtualMachineInstance)}
      (due : times n < limit) (earlier : ∀ i < n, StartGoesOn answers i)
      (decides : StartDecides id answers n result) :
      StartRun id timeout answers after times limit
        ⟨some (result, times n), readsAt .virtualMachineInstance id times (n + 1), after (n + 1)⟩
  | expired {n time : Nat} {lastState : Option String} (late : limit ≤ times n)
      (due : ∀ i < n, times i < limit) (earlier : ∀ i < n, StartGoesOn answers i) (notBefore : limit ≤ time)
      (notAfter : time ≤ Clock.ceilMilli limit) :
      StartRun id timeout answers after times limit
        ⟨some (.error (.wait .virtualMachineInstance id .start (.timeout timeout ["Running"] lastState)),
            time),
          readsAt .virtualMachineInstance id times n, after n⟩

/-- What a wait for a machine to run comes to whose reads are made at the given times, as long as these are
below the limit. -/
structure StartOutcome (id : ResourceId) (timeout : Duration)
    (answers : Nat → ReadAnswer .virtualMachineInstance) (after : Nat → σ) (times : Nat → Nat) (limit : Nat)
    (run : Plan.Run Call σ (Except LifecycleError (Resource .virtualMachineInstance) × Nat)) : Prop where
  ends : run.result.isSome
  /-- all calls are reads of the machine, one at each of the times below the limit until the end -/
  reads : ∃ n, (∀ i < n, times i < limit) ∧ run.calls = readsAt .virtualMachineInstance id times n
  /-- the first read that does not let the wait go on ends it at once, and nothing is read after it -/
  decided : ∀ n result, times n < limit → (∀ i < n, StartGoesOn answers i) →
    StartDecides id answers n result →
    run = ⟨some (result, times n), readsAt .virtualMachineInstance id times (n + 1), after (n + 1)⟩
  /-- without such a read time runs out -/
  sound : ∀ result time, run.result = some (result, time) →
    (∃ n, times n = time ∧ times n < limit ∧ (∀ i < n, StartGoesOn answers i) ∧
      StartDecides id answers n result) ∨
    (∃ n lastState, limit ≤ times n ∧ (∀ i < n, times i < limit ∧ StartGoesOn answers i) ∧
      result = .error (.wait .virtualMachineInstance id .start (.timeout timeout ["Running"] lastState)) ∧
      limit ≤ time ∧ time ≤ Clock.ceilMilli limit)

/-- From the run as a whole and from what it comes to where a read decides in time, the outcome is told in
all cases. -/
theorem StartRun.outcome (monotone : Monotone times)
    (whole : StartRun id timeout answers after times limit run)
    (decided : ∀ n result, times n < limit → (∀ i < n, StartGoesOn answers i) →
      StartDecides id answers n result →
      run = ⟨some (result, times n), readsAt .virtualMachineInstance id times (n + 1), after (n + 1)⟩) :
    StartOutcome id timeout answers after times limit run := by
  cases whole with
  | @decided n result due earlier decides =>
    refine ⟨rfl, ⟨n + 1, ?_, rfl⟩, decided, ?_⟩
    · intro i low
      exact Nat.lt_of_le_of_lt (monotone (Nat.le_of_lt_succ low)) due
    · rintro _ _ ⟨⟩
      exact .inl ⟨n, rfl, due, earlier, decides⟩
  | @expired n time lastState late due earlier notBefore notAfter =>
    refine ⟨rfl, ⟨n, due, rfl⟩, decided, ?_⟩
    rintro _ _ ⟨⟩
    exact .inr ⟨n, lastState, late, fun i low => ⟨due i low, earlier i low⟩, rfl, notBefore, notAfter⟩

end Outcomes

section Wait

variable {σ : Type} {config : Config} {id : ResourceId} {timeout : Duration} {start : Nat}
  {respond : Plan.Responder Call Call.Reply σ} {after : Nat → σ}
  {answers : Nat → ReadAnswer .virtualMachineInstance}

/-- The looks of a wait for a machine to run. -/
def startLooks (answers : Nat → ReadAnswer .virtualMachineInstance) (id : ResourceId) :
    Script ClientError (Resource .virtualMachineInstance) :=
  looks id (fun object => (object.instancePhase.text, object)) answers

/-- When the first read is due, if there is time for it: five seconds after the start. -/
def startOpening (start : Nat) : Nat := Clock.sleepUntil start (start + (Duration.ofSeconds 5).nanos)

/-- When the reads are due, if there is time for them. -/
def startTimes (config : Config) (start : Nat) : Nat → Nat :=
  Clock.afterSleeps config.pause.nanos (startOpening start)

theorem outcome_startLooks (id : ResourceId) {k : Nat} {object : Resource .virtualMachineInstance}
    (found : answers k = .ok (some object)) :
    (startLooks answers id k).outcome = .ok (.found (reportedPhase object) object) := by
  have outcome : (startLooks answers id k).outcome = .ok (.found object.instancePhase.text object) :=
    outcome_looks_found found
  rw [outcome, Resource.text_instancePhase]
  rfl

/-- The run of the wait, by that of its looks. -/
theorem run_awaitRunning (answered : AnswersReads respond .virtualMachineInstance id answers after)
    {times : Nat → Nat} {time n : Nat}
    {result : Except (WaitError ClientError) (Resolution (Resource .virtualMachineInstance))}
    (run : (runningConfig config timeout).runOn (startLooks answers id) start =
      ⟨some (result, time), (List.range n).map fun i => (times i, ()), n⟩) :
    (awaitRunning config id timeout start).run respond (after 0) =
      ⟨some (reachedResult (.notFound .virtualMachineInstance id)
          (.wait .virtualMachineInstance id .start) result, time),
        readsAt .virtualMachineInstance id times n, after n⟩ :=
  run_await_reached _ answered _ _ run

/-- Four absences in a row are one more than are tolerated. -/
theorem missingBefore_startLooks (id : ResourceId) {n : Nat} (tolerated : ¬ FourthAbsence answers n) :
    (startLooks answers id).missingBefore (n + 1) ≤ 3 := by
  apply Nat.le_of_not_lt
  intro above
  obtain ⟨enough, all⟩ := ((startLooks answers id).lt_missingBefore_iff n 3).mp above
  exact tolerated ⟨enough, fun i low => isMissing_looks_iff.mp (all i low)⟩

/-- A read that lets the wait go on decides nothing. -/
theorem undecided_of_startGoesOn {n : Nat} (goesOn : StartGoesOn answers n)
    (counts : (runningConfig config timeout).Counts (startLooks answers id) start n) :
    (runningConfig config timeout).Undecided (startLooks answers id) start n := by
  rcases goesOn.starting with absent | ⟨object, found, starting⟩
  · refine WaitConfig.undecided_of_tolerated counts (outcome_looks_absent absent) (List.cons_ne_nil _ _) ?_
    rintro limit ⟨⟩ -
    exact missingBefore_startLooks id goesOn.tolerated
  · have target : reportedPhase object ∉ ["Running"] := by
      intro running
      rw [List.mem_singleton.mp running] at starting
      exact absurd starting (by decide)
    exact WaitConfig.undecided_of_pending counts (outcome_startLooks id found) target starting

/-- A read that ends the wait decides what it comes to. -/
theorem exists_decides_of_startDecides {n : Nat}
    {result : Except LifecycleError (Resource .virtualMachineInstance)}
    (decides : StartDecides id answers n result)
    (counts : (runningConfig config timeout).Counts (startLooks answers id) start n) :
    ∃ waited,
      (runningConfig config timeout).Decides (startLooks answers id) start n waited
        ((runningConfig config timeout).lookEnd (startLooks answers id) start n) ∧
      reachedResult (.notFound .virtualMachineInstance id) (.wait .virtualMachineInstance id .start) waited =
        result := by
  cases decides with
  | running object found runs =>
    have target : reportedPhase object ∈ ["Running"] :=
      List.mem_singleton.mpr ((reportedPhase_eq_running_iff object).mpr runs)
    exact ⟨_, .reached _ object counts (outcome_startLooks id found) target, rfl⟩
  | unexpected object found starting running =>
    have target : reportedPhase object ∉ ["Running"] := mt List.mem_singleton.mp running
    exact ⟨_, .unexpected _ object counts (outcome_startLooks id found) target starting, rfl⟩
  | missing absent =>
    have counted : startMissingLimit.toNat + 1 < UInt32.size := by decide
    have all : ∀ i ≤ startMissingLimit.toNat, (startLooks answers id (n - i)).outcome = .ok .missing :=
      fun i low => outcome_looks_absent (absent.2 i low)
    exact ⟨_, .missing startMissingLimit counts (List.cons_ne_nil _ _) rfl counted absent.1 all, rfl⟩
  | failed cause fails =>
    exact ⟨_, .failed cause counts (outcome_looks_failed fails), rfl⟩

theorem delay_le_startTimes (config : Config) (start n : Nat) :
    start + (Duration.ofSeconds 5).nanos ≤ startTimes config start n :=
  calc
    start + (Duration.ofSeconds 5).nanos ≤ startOpening start := Clock.until_le_sleepUntil _ _
    _ ≤ startTimes config start n := Clock.monotone_afterSleeps _ _ (Nat.zero_le n)

section Timed

variable (shown : Clock.CanShow (start + timeout.nanos))
  (answered : AnswersReads respond .virtualMachineInstance id answers after)
  (positive : 0 < config.pause.nanos)

include shown in
/-- The first look is due five seconds after the start, or at the deadline if that comes first. -/
theorem firstLook_runningConfig (config : Config) :
    (runningConfig config timeout).firstLook start =
      Clock.sleepUntil start (min (start + (Duration.ofSeconds 5).nanos) (start + timeout.nanos)) := by
  have deadline : (runningConfig config timeout).deadline start = start + timeout.nanos :=
    deadline_waitConfig config shown
  rw [WaitConfig.firstLook, deadline]
  rfl

include shown positive in
/-- A wait for a machine to run looks at the pace of the configuration after its delay, and goes on while
the machine is on its way, or has been missing in no more than three looks in a row. -/
theorem polls_runningConfig {first : Nat} (opening : (runningConfig config timeout).firstLook start = first)
    (answers : Nat → ReadAnswer .virtualMachineInstance) (id : ResourceId) :
    (runningConfig config timeout).Polls (startLooks answers id) start first config.pause
      (start + timeout.nanos) (StartGoesOn answers) where
  regular := ⟨opening, rfl, fun _ => rfl⟩
  positive := positive
  deadline := deadline_waitConfig config shown
  undecided counts goesOn := undecided_of_startGoesOn goesOn counts

include shown in
/-- With five seconds or more the first read is due after them. -/
theorem firstLook_eq_startOpening (config : Config)
    (long : (Duration.ofSeconds 5).nanos ≤ timeout.nanos) :
    (runningConfig config timeout).firstLook start = startOpening start := by
  have before : start + (Duration.ofSeconds 5).nanos ≤ start + timeout.nanos :=
    Nat.add_le_add_left long start
  rw [firstLook_runningConfig shown config, Nat.min_eq_left before, startOpening]

include shown answered positive

/-- A wait that goes on until the read that decides ends with that. -/
theorem run_awaitRunning_of_decides {n : Nat}
    {result : Except LifecycleError (Resource .virtualMachineInstance)}
    (due : startTimes config start n < start + timeout.nanos)
    (earlier : ∀ i < n, StartGoesOn answers i) (decides : StartDecides id answers n result) :
    (awaitRunning config id timeout start).run respond (after 0) =
      ⟨some (result, startTimes config start n),
        readsAt .virtualMachineInstance id (startTimes config start) (n + 1), after (n + 1)⟩ := by
  have long : (Duration.ofSeconds 5).nanos ≤ timeout.nanos := by
    have delayed := delay_le_startTimes config start n
    omega
  have polls :=
    polls_runningConfig shown positive (firstLook_eq_startOpening shown config long) answers id
  have dueLook := due
  rw [← polls.deadline] at dueLook
  obtain ⟨waited, decided, rfl⟩ := exists_decides_of_startDecides decides (polls.regular.counts dueLook)
  exact run_awaitRunning answered (polls.runOn_of_decides due earlier fun _ => decided)

/-- A wait that goes on until it is too late for a read ends with that. -/
theorem run_awaitRunning_of_late {first n : Nat}
    (opening : (runningConfig config timeout).firstLook start = first)
    (late : start + timeout.nanos ≤ Clock.afterSleeps config.pause.nanos first n)
    (due : ∀ i < n, Clock.afterSleeps config.pause.nanos first i < start + timeout.nanos)
    (earlier : ∀ i < n, StartGoesOn answers i) :
    ∃ lastState,
      (awaitRunning config id timeout start).run respond (after 0) =
        ⟨some (.error (.wait .virtualMachineInstance id .start (.timeout timeout ["Running"] lastState)),
            min (Clock.afterSleeps config.pause.nanos first n) (Clock.ceilMilli (start + timeout.nanos))),
          readsAt .virtualMachineInstance id (Clock.afterSleeps config.pause.nanos first) n, after n⟩ := by
  have polls := polls_runningConfig shown positive opening answers id
  rw [run_awaitRunning answered (polls.runOn_of_late late due earlier)]
  exact ⟨_, rfl⟩

/-- A wait of at most five seconds reads nothing. -/
theorem run_awaitRunning_of_short (short : timeout.nanos ≤ (Duration.ofSeconds 5).nanos) :
    ∃ lastState time, start + timeout.nanos ≤ time ∧ time ≤ Clock.ceilMilli (start + timeout.nanos) ∧
      (awaitRunning config id timeout start).run respond (after 0) =
        ⟨some (.error (.wait .virtualMachineInstance id .start (.timeout timeout ["Running"] lastState)),
            time), [], after 0⟩ := by
  have before : start + timeout.nanos ≤ start + (Duration.ofSeconds 5).nanos :=
    Nat.add_le_add_left short start
  have late : start + timeout.nanos ≤
      Clock.afterSleeps config.pause.nanos ((runningConfig config timeout).firstLook start) 0 := by
    rw [Clock.afterSleeps, firstLook_runningConfig shown config, Nat.min_eq_right before]
    exact Clock.until_le_sleepUntil _ _
  obtain ⟨lastState, run⟩ := run_awaitRunning_of_late (n := 0) shown answered positive rfl late
    (fun i low => absurd low (Nat.not_lt_zero i)) (fun i low => absurd low (Nat.not_lt_zero i))
  exact ⟨lastState, _, Nat.le_min.mpr ⟨late, Clock.le_ceilMilli _⟩, Nat.min_le_right _ _, run⟩

/-- Every wait for a machine to run ends with the first read that does not let it go on, or because time
runs out. -/
theorem startRun :
    StartRun id timeout answers after (startTimes config start) (start + timeout.nanos)
      ((awaitRunning config id timeout start).run respond (after 0)) := by
  rcases Nat.le_total timeout.nanos (Duration.ofSeconds 5).nanos with short | long
  · obtain ⟨lastState, time, notBefore, notAfter, run⟩ :=
      run_awaitRunning_of_short shown answered positive short
    have late : start + timeout.nanos ≤ startTimes config start 0 :=
      Nat.le_trans (Nat.add_le_add_left short start) (delay_le_startTimes config start 0)
    rw [run]
    exact .expired (n := 0) late (fun i low => absurd low (Nat.not_lt_zero i))
      (fun i low => absurd low (Nat.not_lt_zero i)) notBefore notAfter
  · obtain ⟨n, before, earlier, late | ⟨due, halts⟩⟩ := exists_first_stop (StartGoesOn answers)
      (Clock.exists_late positive (startOpening start) (start + timeout.nanos))
    · obtain ⟨lastState, run⟩ := run_awaitRunning_of_late shown answered positive
        (firstLook_eq_startOpening shown config long) late before earlier
      rw [run]
      exact .expired late before earlier (Nat.le_min.mpr ⟨late, Clock.le_ceilMilli _⟩) (Nat.min_le_right _ _)
    · obtain ⟨result, decides⟩ := (goesOn_or_decides id answers n).resolve_left halts
      rw [run_awaitRunning_of_decides shown answered positive due earlier decides]
      exact .decided due earlier decides

end Timed

/-- **Waiting for a machine to run finds the first read that shows it running.** Reads of the machine are
answered at once, in any way. The first is made after five seconds, if there is time, and the others after
one pause and another. The wait goes on as long as reads find nothing or a phase before running, but not
with a fourth absence in a row: that, any other phase or a failure ends it at once and is told, and nothing
is read after it. So it succeeds if and only if a read in time shows a running machine and it goes on with
all reads before. With at most five seconds nothing is read. From a whole millisecond on, pauses of whole
milliseconds are kept as they are; otherwise each goes on to the next timer of the clock. -/
theorem start_awaits_running (answered : AnswersReads respond .virtualMachineInstance id answers after)
    (positive : 0 < config.pause.nanos) (shown : Clock.CanShow (start + timeout.nanos)) :
    let times := startTimes config start
    let run := (awaitRunning config id timeout start).run respond (after 0)
    StartOutcome id timeout answers after times (start + timeout.nanos) run ∧
      (∀ call ∈ run.calls, start + (Duration.ofSeconds 5).nanos ≤ call.1) ∧
      (timeout.nanos ≤ (Duration.ofSeconds 5).nanos → run.calls = []) ∧
      (Clock.IsMilli start → Clock.IsMilli config.pause.nanos →
        ∀ n, times n = start + (Duration.ofSeconds 5).nanos + n * config.pause.nanos) := by
  intro times run
  have whole : StartRun id timeout answers after times (start + timeout.nanos) run :=
    startRun shown answered positive
  have outcome := whole.outcome (Clock.monotone_afterSleeps _ _) fun n result due earlier decides =>
    run_awaitRunning_of_decides shown answered positive due earlier decides
  refine ⟨outcome, ?_, ?_, ?_⟩
  · intro call made
    obtain ⟨n, -, reads⟩ := outcome.reads
    rw [reads] at made
    obtain ⟨i, -, rfl⟩ := List.mem_map.mp made
    exact delay_le_startTimes config start i
  · intro short
    obtain ⟨lastState, time, -, -, unread⟩ := run_awaitRunning_of_short shown answered positive short
    exact congrArg Plan.Run.calls unread
  · intro wholeStart wholePause n
    have delay : Clock.ceilMilli (Duration.ofSeconds 5).nanos = (Duration.ofSeconds 5).nanos := by decide
    have opening : startOpening start = start + (Duration.ofSeconds 5).nanos := by
      rw [startOpening, Clock.sleepUntil_add wholeStart, delay]
    have wholeOpening : Clock.IsMilli (startOpening start) := by
      rw [opening]
      exact wholeStart.add (by decide)
    calc
      times n = startOpening start + n * Clock.ceilMilli config.pause.nanos :=
        Clock.afterSleeps_of_isMilli _ wholeOpening n
      _ = start + (Duration.ofSeconds 5).nanos + n * config.pause.nanos := by
        rw [opening, Clock.ceilMilli_of_isMilli wholePause]

/-- A machine in the given phase. -/
def machineIn (phase : String) : Resource .virtualMachineInstance := ⟨{}, {}, some { phase := some phase }⟩

/-- A machine that is missing but for two reads: in one it is pending, in a later one it runs. -/
def readsUntilRunning (pending running : Nat) : (kind : Kind) → Nat → ReadAnswer kind
  | .virtualMachineInstance, k =>
    if k = pending then .ok (some (machineIn "Pending"))
    else if k = running then .ok (some (machineIn "Running"))
    else .ok none
  | _, _ => .ok none

/-- The machine is not missing four times in a row before it runs. -/
theorem startGoesOn_readsUntilRunning {pending running : Nat} (first : pending ≤ 3)
    (next : running ≤ pending + 4) {i : Nat} (low : i < running) :
    StartGoesOn (readsUntilRunning pending running .virtualMachineInstance) i where
  starting := by
    by_cases there : i = pending
    · exact .inr ⟨machineIn "Pending", if_pos there, List.mem_cons_self⟩
    · left
      rw [readsUntilRunning, if_neg there, if_neg (Nat.ne_of_lt low)]
  tolerated := by
    rintro ⟨enough, absent⟩
    have back : i - (i - pending) = pending := by omega
    have missed := absent (i - pending) (by omega)
    rw [back, readsUntilRunning, if_pos rfl] at missed
    cases missed

/-- A machine runs in the sixth read, after three absences, a sign of life and one more absence. -/
theorem start_awaits_running_of_machine :
    let id : ResourceId := ⟨"n", "a"⟩
    0 < Config.standard.pause.nanos ∧ Clock.CanShow (0 + (Duration.ofSeconds 20).nanos) ∧
      (awaitRunning .standard id (.ofSeconds 20) 0).run (respondReads (readsUntilRunning 3 5)) 0 =
        ⟨some (.ok (machineIn "Running"), 15000000000),
          [(5000000000, .get .virtualMachineInstance id), (7000000000, .get .virtualMachineInstance id),
            (9000000000, .get .virtualMachineInstance id), (11000000000, .get .virtualMachineInstance id),
            (13000000000, .get .virtualMachineInstance id), (15000000000, .get .virtualMachineInstance id)],
          6⟩ := by
  intro id
  have positive : 0 < Config.standard.pause.nanos := by decide
  have shown : Clock.CanShow (0 + (Duration.ofSeconds 20).nanos) := by decide
  obtain ⟨outcome, -, -, times⟩ := start_awaits_running
    (answersReads_respondReads (readsUntilRunning 3 5) .virtualMachineInstance id) positive shown
  have whole : Clock.IsMilli Config.standard.pause.nanos := by decide
  have pauses : (fun n => 0 + (Duration.ofSeconds 5).nanos + n * Config.standard.pause.nanos) =
      fun n => 5000000000 + n * 2000000000 := by
    funext n
    rw [Nat.zero_add]
    rfl
  have timed : startTimes .standard 0 = fun n => 5000000000 + n * 2000000000 :=
    (funext (times rfl whole)).trans pauses
  have due : startTimes .standard 0 5 < 0 + (Duration.ofSeconds 20).nanos := by
    rw [timed]
    decide
  refine ⟨positive, shown, ?_⟩
  rw [outcome.decided 5 (.ok (machineIn "Running")) due
    (fun i low => startGoesOn_readsUntilRunning (by decide) (by decide) low)
    (.running (machineIn "Running") rfl rfl), timed]
  rfl

/-- Pauses of half a millisecond become whole ones, so a machine that runs in the third read is not found
in time if that read is due only by the pauses as they are. -/
theorem start_misses_running :
    let config : Config := { Config.standard with pause := .ofNanos 500000 }
    let timeout : Duration := .ofNanos 5001500000
    let id : ResourceId := ⟨"n", "a"⟩
    let answers := readsUntilRunning 1 2
    let run := (awaitRunning config id timeout 0).run (respondReads answers) 0
    (Duration.ofSeconds 5).nanos + 2 * config.pause.nanos < timeout.nanos ∧
      (∀ i < 2, StartGoesOn (answers .virtualMachineInstance) i) ∧
      StartDecides id (answers .virtualMachineInstance) 2 (.ok (machineIn "Running")) ∧
      run.result = some (.error (.wait .virtualMachineInstance id .start
        (.timeout timeout ["Running"] (some "Pending"))), 5002000000) := by
  refine ⟨by decide, ?_, .running (machineIn "Running") rfl rfl, rfl⟩
  intro i low
  exact startGoesOn_readsUntilRunning (by decide) (by decide) low

end Wait

end VirtLifecycle.Lifecycle
