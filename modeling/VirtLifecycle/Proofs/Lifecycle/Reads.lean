/-
Module: VirtLifecycle.Proofs.Lifecycle.Reads
Purpose: Waits for an object whose reads are answered at once. Such a wait makes its reads as its looks
  are due, and what it comes to is what the looks come to that the answers make.
Main exports: Lifecycle.ReadAnswer, Lifecycle.AnswersReads, Lifecycle.looks, Lifecycle.readsAt,
  Lifecycle.run_await_look, Lifecycle.run_await_reached, Lifecycle.respondReads,
  Lifecycle.exists_first_stop
-/
import VirtLifecycle.Lifecycle
import VirtLifecycle.Proofs.Operation
import VirtLifecycle.Proofs.Wait.Instant

namespace VirtLifecycle.Lifecycle

/-- What a get of an object is answered with. -/
abbrev ReadAnswer (kind : Kind) : Type := Except ClientError (Option (Resource kind))

/-- The reads of the object are answered at once, each as given. -/
def AnswersReads {σ : Type} (respond : Plan.Responder Call Call.Reply σ) (kind : Kind) (id : ResourceId)
    (answers : Nat → ReadAnswer kind) (after : Nat → σ) : Prop :=
  ∀ k time, respond (after k) time (.get kind id) = ((answers k, .zero), after (k + 1))

/-- The first reads of an object, by the times of all. -/
def readsAt (kind : Kind) (id : ResourceId) (times : Nat → Nat) (n : Nat) : List (Nat × Call) :=
  (List.range n).map fun i => (times i, .get kind id)

/-- The looks that the answers make. -/
def looks {α : Type} {kind : Kind} (id : ResourceId) (view : Resource kind → String × α)
    (answers : Nat → ReadAnswer kind) : Script ClientError α := fun k =>
  ⟨(look kind id view).read (answers k), .zero⟩

section Looks

variable {α : Type} {kind : Kind} {id : ResourceId} {view : Resource kind → String × α}
  {answers : Nat → ReadAnswer kind} {k : Nat}

theorem outcome_looks_found {object : Resource kind} (found : answers k = .ok (some object)) :
    (looks id view answers k).outcome = .ok (.found (view object).1 (view object).2) := by
  rw [looks, found]
  rfl

theorem outcome_looks_absent (absent : answers k = .ok none) :
    (looks id view answers k).outcome = .ok .missing := by
  rw [looks, absent]
  rfl

theorem outcome_looks_failed {cause : ClientError} (fails : answers k = .error cause) :
    (looks id view answers k).outcome = .error cause := by
  rw [looks, fails]
  rfl

/-- A look misses the object exactly if the read finds nothing. -/
theorem isMissing_looks_iff : (looks id view answers k).IsMissing ↔ answers k = .ok none := by
  rw [Look.isMissing_iff]
  constructor
  · intro missing
    rcases found : answers k with cause | - | object
    · rw [outcome_looks_failed found] at missing
      cases missing
    · rfl
    · rw [outcome_looks_found found] at missing
      cases missing
  · exact outcome_looks_absent

end Looks

/-- When time is up for a wait whose end the clock can show. -/
theorem deadline_waitConfig (config : Config) {timeout : Duration} {start : Nat}
    (shown : Clock.CanShow (start + timeout.nanos)) :
    (waitConfig config timeout).deadline start = start + timeout.nanos := by
  have budget : (waitConfig config timeout).budgetNanos start = timeout.nanos := if_pos shown
  rw [WaitConfig.deadline, budget]

/-- What the end of a wait that has to reach a value means. -/
def reachedResult {α : Type} (gone : LifecycleError) (describe : WaitError ClientError → LifecycleError) :
    Except (WaitError ClientError) (Resolution α) → Except LifecycleError α
  | .ok (.reached value) => .ok value
  | .ok .absent => .error gone
  | .error cause => .error (describe cause)

section Wait

variable {σ α : Type} {kind : Kind} {id : ResourceId} {start : Nat}
  {respond : Plan.Responder Call Call.Reply σ} {after : Nat → σ} {answers : Nat → ReadAnswer kind}

/-- The run of a wait for the object, by that of its looks. -/
theorem run_await_look {c : WaitConfig} (view : Resource kind → String × α)
    (answered : AnswersReads respond kind id answers after)
    (describe : WaitError ClientError → LifecycleError) {times : Nat → Nat} {time n : Nat}
    {result : Except (WaitError ClientError) (Resolution α)}
    (run : c.runOn (looks id view answers) start =
      ⟨some (result, time), (List.range n).map fun i => (times i, ()), n⟩) :
    (Operation.await c (look kind id view) describe start).run respond (after 0) =
      ⟨some (result.mapError describe, time), readsAt kind id times n, after n⟩ := by
  have shown : ∀ k time,
      (look kind id view).look (respond (after k) time (look kind id view).call).1 =
          looks id view answers k ∧
        (respond (after k) time (look kind id view).call).2 = after (k + 1) := by
    intro k time
    have reply := answered k time
    exact ⟨congrArg (fun r => (look kind id view).look r.1) reply, congrArg Prod.snd reply⟩
  obtain ⟨⟨results, calls⟩, final⟩ := c.run_wait_of_answers start after shown
  rw [run] at results calls final
  rw [Operation.run_await, results, calls, final, List.map_map]
  rfl

/-- The same for a wait that has to reach a value. -/
theorem run_await_reached {c : WaitConfig} (view : Resource kind → String × α)
    (answered : AnswersReads respond kind id answers after) (gone : LifecycleError)
    (describe : WaitError ClientError → LifecycleError) {times : Nat → Nat} {time n : Nat}
    {result : Except (WaitError ClientError) (Resolution α)}
    (run : c.runOn (looks id view answers) start =
      ⟨some (result, time), (List.range n).map fun i => (times i, ()), n⟩) :
    ((Operation.await c (look kind id view) describe >>= reachedOr gone) start).run respond (after 0) =
      ⟨some (reachedResult gone describe result, time), readsAt kind id times n, after n⟩ := by
  rw [Operation.run_bind, run_await_look view answered describe run]
  rcases result with cause | value | absent
  all_goals
    rw [Plan.Run.andThen_of_some rfl]
    simp [Operation.resume, reachedResult, Except.mapError, reachedOr, Operation.succeed, Operation.fail,
      Plan.run]

end Wait

/-- Accepts all writes and answers reads one after another, all at once. The state counts the reads. -/
def respondReads (answers : (kind : Kind) → Nat → ReadAnswer kind) :
    Plan.Responder Call Call.Reply Nat := fun k _ call =>
  match call with
  | .create object => ((.ok object, .zero), k)
  | .get kind _ => ((answers kind k, .zero), k + 1)
  | .update _ id _ => ((.error (.rejected (.absent id)), .zero), k)
  | .delete _ _ => ((.ok (), .zero), k)

theorem answersReads_respondReads (answers : (kind : Kind) → Nat → ReadAnswer kind) (kind : Kind)
    (id : ResourceId) : AnswersReads (respondReads answers) kind id (answers kind) fun k => k :=
  fun _ _ => rfl

/-- Of reads that are made as long as there is time, there is a first one that would be too late or that
does not let the wait go on. -/
theorem exists_first_stop (GoesOn : Nat → Prop) {times : Nat → Nat} {limit : Nat}
    (ends : ∃ n, limit ≤ times n) :
    ∃ n, (∀ i < n, times i < limit) ∧ (∀ i < n, GoesOn i) ∧
      (limit ≤ times n ∨ times n < limit ∧ ¬ GoesOn n) := by
  classical
  obtain ⟨last, lateLast⟩ := ends
  have stops : ∃ n, limit ≤ times n ∨ ¬ GoesOn n := ⟨last, .inl lateLast⟩
  refine ⟨Nat.find stops, fun i low => ?_, fun i low => ?_, ?_⟩
  · apply Nat.lt_of_not_le
    intro late
    exact Nat.find_min stops low (.inl late)
  · apply Decidable.by_contra
    intro halts
    exact Nat.find_min stops low (.inr halts)
  · rcases Nat.lt_or_ge (times (Nat.find stops)) limit with due | late
    · exact .inr ⟨due, (Nat.find_spec stops).resolve_left (Nat.not_le.mpr due)⟩
    · exact .inl late

end VirtLifecycle.Lifecycle
