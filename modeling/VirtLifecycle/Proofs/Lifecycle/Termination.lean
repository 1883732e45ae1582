/-
Module: VirtLifecycle.Proofs.Lifecycle.Termination
Purpose: Waits for resources end. A wait at the pace of an accepted configuration has pauses above
  zero, so it comes to a result after a bounded number of looks, whatever the cluster answers.
Main exports: Lifecycle.run_await_endsWithin, Lifecycle.waits_end
-/
import VirtLifecycle.Cluster.InMemory
import VirtLifecycle.Lifecycle
import VirtLifecycle.Proofs.Config.Loading
import VirtLifecycle.Proofs.Operation
import VirtLifecycle.Proofs.Wait.Bound

namespace VirtLifecycle

namespace Operation

variable {α β σ : Type} {respond : Plan.Responder Call Call.Reply σ} {state : σ} {now : Nat}

theorem run_await_endsWithin {wait : WaitConfig} (positive : 0 < wait.pacing.leastPause.nanos)
    (probe : Probe Call Call.Reply ClientError α)
    (describe : WaitError ClientError → LifecycleError) :
    ((await wait probe describe now).run respond state).EndsWithin (wait.mostLooks now) := by
  obtain ⟨ends, calls⟩ := wait.wait_endsWithin positive probe respond state now
  rw [run_await]
  exact ⟨Option.isSome_map.trans ends, calls⟩

/-- What makes no calls after a wait leaves its bound as it is. -/
theorem run_await_bind_endsWithin {wait : WaitConfig}
    (positive : 0 < wait.pacing.leastPause.nanos) (probe : Probe Call Call.Reply ClientError α)
    (describe : WaitError ClientError → LifecycleError) {next : Resolution α → Operation β}
    (quiet : ∀ resolution, ∃ result, next resolution = ofExcept result) :
    (((await wait probe describe >>= next) now).run respond state).EndsWithin
      (wait.mostLooks now) := by
  rw [run_bind]
  refine (run_await_endsWithin positive probe describe).andThen ?_
  rintro ⟨result, now⟩ state
  cases result with
  | error e => exact ⟨rfl, Nat.le_refl 0⟩
  | ok resolution =>
    obtain ⟨result, nextEq⟩ := quiet resolution
    rw [resume, nextEq]
    cases result <;> exact ⟨rfl, Nat.le_refl 0⟩

end Operation

namespace Lifecycle

/-- All waits for resources take the configured pause. -/
theorem leastPause_pos {config : Config} (positive : 0 < config.pause.nanos) (timeout : Duration) :
    0 < (createdConfig config timeout).pacing.leastPause.nanos ∧
      0 < (deletedConfig config timeout).pacing.leastPause.nanos ∧
      0 < (runningConfig config timeout).pacing.leastPause.nanos :=
  ⟨positive, positive, positive⟩

/-- Taking the value that was reached makes no calls. -/
theorem reachedOr_eq_ofExcept {α : Type} (error : LifecycleError) (resolution : Resolution α) :
    ∃ result, reachedOr error resolution = Operation.ofExcept result := by
  cases resolution with
  | reached value => exact ⟨.ok value, rfl⟩
  | absent => exact ⟨.error error, rfl⟩

/-- Every wait with pauses above zero ends after at most as many looks as least pauses begin in its
time, whoever answers and however long that takes; a look that hangs takes the largest span. So does
every wait for a resource whose pace comes from an accepted configuration. -/
theorem waits_end :
    (∀ {Call ε α σ : Type} {Reply : Call → Type} (c : WaitConfig) (probe : Probe Call Reply ε α)
      (respond : Plan.Responder Call Reply σ) (state : σ) (start : Nat),
      0 < c.pacing.leastPause.nanos →
        ((c.wait probe start).run respond state).EndsWithin (c.mostLooks start)) ∧
    ∀ {σ : Type} (lookup : Config.Lookup) (config : Config),
      Config.ofLookup lookup = .ok config →
      ∀ (respond : Plan.Responder Call Call.Reply σ) (state : σ) (timeout : Duration) (now : Nat)
        (kind : Kind) (id : ResourceId),
        ((awaitCreated config kind id timeout now).run respond state).EndsWithin
            ((createdConfig config timeout).mostLooks now) ∧
          ((awaitDeleted config kind id timeout now).run respond state).EndsWithin
            ((deletedConfig config timeout).mostLooks now) ∧
          ((awaitRunning config id timeout now).run respond state).EndsWithin
            ((runningConfig config timeout).mostLooks now) := by
  constructor
  · intro Call ε α σ Reply c probe respond state start positive
    exact c.wait_endsWithin positive probe respond state start
  · intro σ lookup config accepted respond state timeout now kind id
    have positive := Config.pause_pos_of_ofLookup accepted
    obtain ⟨created, deleted, running⟩ := leastPause_pos positive timeout
    refine ⟨?_, ?_, ?_⟩
    · exact Operation.run_await_bind_endsWithin created _ _ (reachedOr_eq_ofExcept _)
    · exact Operation.run_await_bind_endsWithin deleted _ _ fun _ => ⟨.ok (), rfl⟩
    · exact Operation.run_await_bind_endsWithin running _ _ (reachedOr_eq_ofExcept _)

/-- Looks that hang at growing pauses, and a machine that never appears. -/
theorem waits_end_of_standard :
    let c : WaitConfig :=
      { WaitConfig.ofTimeout (.ofMillis 10) with pacing := .fibonacci (.ofMillis 2) .max }
    let s : Script String Unit := fun _ => ⟨.ok .missing, .max⟩
    let id : ResourceId := ⟨"default", "vm"⟩
    0 < c.pacing.leastPause.nanos ∧
      ((c.wait Probe.plain 0).run s.respond 0).EndsWithin 5 ∧
      Config.ofLookup (fun _ => none) = .ok .standard ∧
      ((awaitRunning .standard id (.ofSeconds 300) 0).run Cluster.respond .empty).EndsWithin 148 := by
  intro c s id
  have positive : 0 < c.pacing.leastPause.nanos := by decide
  have ends := waits_end.1 c Probe.plain s.respond 0 0 positive
  have accepted : Config.ofLookup (fun _ => none) = .ok .standard := rfl
  have running := (waits_end.2 _ _ accepted Cluster.respond .empty (.ofSeconds 300) 0
    .virtualMachineInstance id).2.2
  have fewLooks : c.mostLooks 0 = 5 := by decide
  have moreLooks : (runningConfig .standard (.ofSeconds 300)).mostLooks 0 = 148 := by decide
  rw [fewLooks] at ends
  rw [moreLooks] at running
  exact ⟨positive, ends, accepted, running⟩

end Lifecycle

end VirtLifecycle
